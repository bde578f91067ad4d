/-
A directory that is given by its files. A relative path leads through it component by component: a
name has to lead on to something, two dots lead back, and nothing outside is seen.
-/
import FormBuilder.Workspace.Store

namespace FormBuilder.Command

/-- Files by their relative paths, in a directory with nothing else. -/
structure Listing where
  files : List (String × String)

namespace Listing

/-- The names on a path. -/
def names (path : String) : List String := (path.splitOn "/").filter fun p => p != "" && p != "."

/-- The text of the file with these names. -/
def text? (l : Listing) (place : List String) : Option String :=
  (l.files.find? fun f => names f.1 == place).map (·.2)

/-- Whether a file lies below these names. -/
def isDirectory (l : Listing) (place : List String) : Bool :=
  l.files.any fun f => place.isPrefixOf (names f.1)

/-- What stands at the end of a path that goes on from a directory. A file is not gone through, and
a directory is not read. -/
def contentFrom (l : Listing) (directory : List String) : List String → FileContent
  | [] => .unreadable
  | name :: rest =>
    if name == "" || name == "." then l.contentFrom directory rest
    else if name == ".." then
      if directory.isEmpty then .missing else l.contentFrom directory.dropLast rest
    else
      let next := directory ++ [name]
      match l.text? next with
      | some t => if rest.isEmpty then .text t else .unreadable
      | none => if l.isDirectory next then l.contentFrom next rest else .missing

/-- What stands at a path. -/
def content (l : Listing) (path : String) : FileContent :=
  if path == "" || path.startsWith "/" then .missing else l.contentFrom [] (path.splitOn "/")

end Listing

end FormBuilder.Command
