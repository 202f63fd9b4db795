import AnnotationQuery.Error

/-!
# File trees

A tree of directories and text files with a current directory. A path is followed component by
component; `.` stays and `..` goes up. Every component needs a directory to be looked up in, and a
slash at the end asks for a directory.

* `FileTree.locate`: follows a path.
* `FileTree.read`, `FileTree.write`: opening a file for reading and for writing.
-/

namespace AnnotationQuery

/-- Directories and text files by the names that lead to them; the root is always there. A directory
has no text. -/
structure FileTree where
  entries : List (List String × Option String)
  current : List String
deriving Repr

namespace FileTree

/-- What stands at a place. -/
inductive Entry where
  | missing
  | directory
  | file (text : String)
deriving DecidableEq, Repr

/-- What stands at a place. -/
def entry (t : FileTree) (place : List String) : Entry :=
  if place = [] then .directory
  else
    match t.entries.lookup place with
    | none => .missing
    | some none => .directory
    | some (some text) => .file text

/-- Puts a directory or a file at a place. -/
def put (t : FileTree) (place : List String) (content : Option String) : FileTree :=
  { t with entries := (place, content) :: t.entries.filter (·.1 != place) }

/-- Puts directories at a place and above it where nothing stands. -/
def makeDirectories (t : FileTree) (place : List String) : FileTree :=
  (List.range (place.length + 1)).foldl
    (fun t n => if t.entry (place.take n) = .missing then t.put (place.take n) none else t) t

/-- Checks that a directory stands at a place. -/
def needDirectory (t : FileTree) (place : List String) : Except FileFault Unit :=
  match t.entry place with
  | .missing => .error .notFound
  | .file _ => .error .notDirectory
  | .directory => .ok ()

/-- Follows components from a place on. -/
def follow (t : FileTree) : List String → List String → Except FileFault (List String)
  | place, [] => .ok place
  | place, name :: names => do
    t.needDirectory place
    if name.utf8ByteSize > 255 then throw .nameTooLong
    follow t
      (if name = "." ∨ name = "" then place
        else if name = ".." then place.dropLast
        else place ++ [name]) names

/-- The place that a path leads to, and whether the path asks for a directory there. -/
def locate (t : FileTree) (path : String) : Except FileFault (List String × Bool) := do
  if path.toList.contains '\x00' then throw .nulInName
  if path.utf8ByteSize > 4095 then throw .nameTooLong
  match (path.splitOn "/").reverse with
  | [] | [""] => throw .notFound
  | last :: before =>
    let start := if path.startsWith "/" then [] else t.current
    let names := if last = "" then before.reverse else before.reverse ++ [last]
    return (← t.follow start names, last = "")

/-- Is there a file at a path? -/
def hasFile (t : FileTree) (path : String) : Bool :=
  match t.locate path with
  | .ok (place, false) =>
    match t.entry place with
    | .file _ => true
    | _ => false
  | _ => false

/-- Opens a path for reading and gives its text; a directory can be opened but has none. -/
def read (t : FileTree) (path : String) : Except FileFault (Option String) := do
  let (place, asksDirectory) ← t.locate path
  match t.entry place with
  | .missing => throw .notFound
  | .directory => return none
  | .file text => if asksDirectory then throw .notDirectory else return some text

/-- Opens a path for writing and writes a text, in place of the old one if there is one. -/
def write (t : FileTree) (path text : String) : Except FileFault FileTree := do
  let (place, asksDirectory) ← t.locate path
  if asksDirectory ∨ t.entry place = .directory then throw .isDirectory
  return t.put place (some text)

end FileTree

end AnnotationQuery
