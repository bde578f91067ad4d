/-
Messages about what the library did, for whoever runs it. Operations stay pure: beside one that has
something to tell stands a function that lists its messages.
-/
namespace FormBuilder

inductive Log.Level where
  | debug | info | warn
  deriving DecidableEq, Repr

/-- One message. -/
structure Log.Entry where
  level : Log.Level
  text : String
  deriving DecidableEq, Repr

namespace Log

/-- Messages in the order in which they arose. -/
abbrev Entries := List Entry

def debug (text : String) : Entry := ⟨.debug, text⟩

def info (text : String) : Entry := ⟨.info, text⟩

def warn (text : String) : Entry := ⟨.warn, text⟩

def Level.name : Level → String
  | .debug => "DEBUG"
  | .info => "INFO"
  | .warn => "WARN"

def Level.rank : Level → Nat
  | .debug => 0
  | .info => 1
  | .warn => 2

/-- The entry as one line. -/
def Entry.line (e : Entry) : String := e.level.name ++ ": " ++ e.text

/-- The entries of at least the level `least`. -/
def atLeast (least : Level) (entries : Entries) : Entries :=
  entries.filter fun e => least.rank ≤ e.level.rank

end Log

end FormBuilder
