import Tenancy.Files.Tree

/-!
# Files/Change — making directories and writing to files

What is made has a place above it already, except that `makeDirectories` makes all of a way. A file
is opened for adding to it, and made if it is not there, also at the end of a link that leads
nowhere.
-/

namespace Tenancy.Files.Tree

/-! ## Directories -/

/-- The directory that the parts of a path lead to. -/
def directoryAt (t : Tree) : List String → Except FileFault Way
  | [] => .ok []
  | ps =>
    match t.resolve true (String.intercalate "/" ps) with
    | .ok (w, .directory) => .ok w
    | .ok _ => .error .notDirectory
    | .error e => .error e

/-- Makes a directory in one that is there. -/
def makeDirectory (t : Tree) (above : List String) (name : String) : Except FileFault Tree :=
  match t.directoryAt above with
  | .error e => .error e
  | .ok w =>
    if name == ".." || (t.at? (w ++ [name])).isSome then .error .exists
    else if isLongName name then .error .nameTooLong
    else .ok (t.put (w ++ [name]) .directory)

/-- Makes a directory, and those above it that are missing; its parts are given last to first. -/
def makeAll (t : Tree) : List String → Except FileFault Tree
  | [] => .ok t
  | name :: above =>
    let make (t : Tree) : Except FileFault Tree :=
      match t.makeDirectory above.reverse name with
      | .ok t => .ok t
      | .error e => if (t.directoryAt (name :: above).reverse).isOk then .ok t else .error e
    match t.makeDirectory above.reverse name with
    | .error .notFound =>
      match makeAll t above with
      | .ok t => make t
      | .error e => .error e
    | _ => make t

/-- Makes the directory that parts lead to, and those above it that are missing. -/
def makeDirectories (t : Tree) (ps : List String) : Except FileFault Tree :=
  match ps with
  | [] => .ok t
  | ps => do
    checkPath (String.intercalate "/" ps)
    t.makeAll ps.reverse

/-! ## Files -/

/-- The last name of a path as it is written, single dots included. -/
def lastName? (path : String) : Option String :=
  (((path.toList.splitOn '/').map String.ofList).filter (· != "")).getLast?

/-- Opens the file that a path from a directory names. At most `links` links are followed at its
end. A path that ends in a slash or in dots can only name a directory. -/
def openFrom (t : Tree) (links : Nat) (here : Way) (path : String) :
    Except FileFault (Way × Tree) :=
  match lastName? path with
  | none | some "." | some ".." => do
    let (_, n) ← t.walk true here (parts path)
    if n = .directory then .error .isDirectory else .error .notDirectory
  | some name => do
    let (w, n) ← t.walk true here (parts path).dropLast
    if n ≠ .directory then .error .notDirectory
    else if path.toList.getLast? = some '/' then .error .isDirectory
    else if isLongName name then .error .nameTooLong
    else
      match t.at? (w ++ [name]) with
      | none => .ok (w ++ [name], t.put (w ++ [name]) (.file []))
      | some (.file _) => .ok (w ++ [name], t)
      | some .directory => .error .isDirectory
      | some (.link target) =>
        match links with
        | 0 => .error .linkLoop
        | links + 1 => if isAbsolute target then .error .notFound else openFrom t links w target

/-- **Opens a file for adding to it**; where it is, and the tree that has it. -/
def openFile (t : Tree) (path : String) : Except FileFault (Way × Tree) := do
  checkPath path
  if isAbsolute path then .error .notFound else t.openFrom 40 [] path

/-- Adds to the end of a file. -/
def append (t : Tree) (w : Way) (bytes : Bytes) : Tree :=
  match t.at? w with
  | some (.file content) => t.put w (.file (content ++ bytes))
  | _ => t

end Tenancy.Files.Tree
