/-
The arguments of the command line. Options and operands come in any order; an argument that begins
with a hyphen is an option, unless it is a hyphen alone or stands behind a double hyphen.
-/
import FormBuilder.Decimal.Literal
import FormBuilder.Workspace.Basic

namespace FormBuilder.Command

/-- What is to be done. -/
inductive Request where
  | palette
  | evaluate (form : String) (values : Option String) (params : List (String × String))
      (page : Nat)
  | formula (expression : String) (values : Option String) (currency : Bool)
  | forms (directory key : Option String) (user : String)
  deriving DecidableEq, Repr

/-- A request, and how much is to be told beside its answer. -/
structure Invocation where
  request : Request
  verbosity : Nat
  deriving DecidableEq, Repr

/-! ## Options -/

/-- How an option is used. -/
inductive Arity where
  /-- Counts how often it is given. -/
  | counted
  /-- Is given at most once, without a value. -/
  | flag
  /-- Is given at most once, with a value. -/
  | single
  /-- May be given again and again, with a value each time. -/
  | many
  deriving DecidableEq, Repr

structure Opt where
  name : String
  letter : Option Char
  arity : Arity
  deriving DecidableEq, Repr

def verbose : Opt := ⟨"verbose", some 'v', .counted⟩

/-- The options and operands that have been read, both from the last to the first. -/
structure Parsed where
  options : List (String × String) := []
  operands : List String := []

namespace Parsed

def values (p : Parsed) (name : String) : List String :=
  (p.options.filter fun o => o.1 == name).reverse.map (·.2)

def value? (p : Parsed) (name : String) : Option String := (p.values name).head?

def count (p : Parsed) (name : String) : Nat := (p.values name).length

def push (p : Parsed) (o : Opt) (value : String) : Option Parsed :=
  let repeated := p.count o.name != 0
  match o.arity with
  | .counted | .many => some { p with options := (o.name, value) :: p.options }
  | .flag | .single =>
    if repeated then none else some { p with options := (o.name, value) :: p.options }

end Parsed

def takesValue (o : Opt) : Bool := o.arity == .single || o.arity == .many

/-- Whether an argument is read as options. -/
def isOption (arg : String) : Bool := arg.startsWith "-" && arg != "-"

/-- A group of letters behind one hyphen, up to the first one that takes a value: the options
without a value, and the option with the rest of the group, if there is one. -/
def letters? (known : List Opt) : List Char → Option (List Opt × Option (Opt × List Char))
  | [] => some ([], none)
  | c :: cs =>
    match known.find? fun o => o.letter == some c with
    | none => none
    | some o =>
      if takesValue o then some ([], some (o, cs))
      else (letters? known cs).map fun (os, last) => (o :: os, last)

/-- Reads the arguments; nothing when one of them makes no sense. -/
def readArguments (known : List Opt) (p : Parsed) : List String → Option Parsed
  | [] => some p
  | arg :: args =>
    if arg == "--" then some { p with operands := args.reverse ++ p.operands }
    else if !isOption arg then readArguments known { p with operands := arg :: p.operands } args
    else
      let withValue (o : Opt) (p : Parsed) (attached : Option String) : Option Parsed :=
        match attached, args with
        | some v, args => (p.push o v).bind fun p => readArguments known p args
        | none, [] => none
        | none, v :: args =>
          if isOption v then none else (p.push o v).bind fun p => readArguments known p args
      match arg.toList with
      | '-' :: '-' :: cs =>
        let name := String.ofList (cs.takeWhile (· != '='))
        let attached := match cs.dropWhile (· != '=') with
          | _ :: v => some (String.ofList v)
          | [] => none
        match known.find? fun o => o.name == name with
        | none => none
        | some o =>
          if takesValue o then withValue o p attached
          else if attached.isSome then none
          else (p.push o "").bind fun p => readArguments known p args
      | cs =>
        match letters? known (cs.drop 1) with
        | none => none
        | some (flags, last) =>
          (flags.foldlM (fun (p : Parsed) o => p.push o "") p).bind fun p =>
            match last with
            | none => readArguments known p args
            | some (o, []) => withValue o p none
            | some (o, '=' :: v) => withValue o p (some (String.ofList v))
            | some (o, v) => withValue o p (some (String.ofList v))

/-! ## Requests -/

/-- Splits `NAME=VALUE` at the first equals sign. -/
def param? (s : String) : Option (String × String) :=
  match s.toList.dropWhile (· != '=') with
  | _ :: value => some (String.ofList (s.toList.takeWhile (· != '=')), String.ofList value)
  | [] => none

/-- A whole number of 64 bits, a plus sign in front or not. -/
def pageNumber? (s : String) : Option Nat :=
  let digits := match s.toList with
    | '+' :: cs => cs
    | cs => cs
  if digits.isEmpty || !digits.all Decimal.isDigit then none
  else (some (Decimal.natOfDigits digits)).filter (· < Nat.pow 2 64)

def options : String → List Opt
  | "evaluate" => [verbose, ⟨"values", none, .single⟩, ⟨"param", some 'p', .many⟩, ⟨"page", none, .single⟩]
  | "formula" => [verbose, ⟨"values", none, .single⟩, ⟨"currency", none, .flag⟩]
  | "forms" =>
    [verbose, ⟨"data-dir", none, .single⟩, ⟨"storage-key", none, .single⟩, ⟨"user", none, .single⟩]
  | _ => [verbose]

/-- The request of a subcommand with its arguments. -/
def request? (subcommand : String) (p : Parsed) : Option Request :=
  match subcommand, p.operands with
  | "palette", [] => some .palette
  | "evaluate", [form] => do
    let params ← (p.values "param").mapM param?
    let page ← match p.value? "page" with
      | none => some 0
      | some s => pageNumber? s
    return .evaluate form (p.value? "values") params page
  | "formula", [expression] =>
    some (.formula expression (p.value? "values") (p.count "currency" != 0))
  | "forms", [] =>
    if p.value? "data-dir" == some "" then none
    else some (.forms (p.value? "data-dir") (p.value? "storage-key")
      ((p.value? "user").getD Workspace.defaultUserId))
  | _, _ => none

/-- Options before a subcommand, and the subcommand with its arguments. -/
def splitSubcommand : List String → Option (List String × String × List String)
  | [] => none
  | arg :: args =>
    if arg == "--" then none
    else if isOption arg then
      (splitSubcommand args).map fun (before, name, after) => (arg :: before, name, after)
    else some ([], arg, args)

/-- Reads the arguments of the command line; nothing when they are used wrongly. The verbosity that
is asked for behind the subcommand goes before the one in front of it. -/
def invocation? (args : List String) : Option Invocation := do
  let (before, name, after) ← splitSubcommand args
  let outer ← readArguments [verbose] {} before
  let inner ← readArguments (options name) {} after
  let request ← request? name inner
  let verbosity := if inner.count "verbose" = 0 then outer.count "verbose"
    else inner.count "verbose"
  return ⟨request, verbosity⟩

end FormBuilder.Command
