import Tenancy.Bundle.Definition
import Tenancy.Error
import Tenancy.Zip.Writer

/-!
# Bundle/Walk — a directory as a bundle

Walking a directory lists its files by the path below the root; packing puts them into an archive
under those names. Entries with an ignored name are passed over with all that is below them. Links
are passed over too, unless they are to be followed; a link at the root is always entered. Refused
are a link to a directory that it lies in, and a directory whose path is too long to be opened.
-/

namespace Tenancy

structure WalkSettings where
  followLinks : Bool := false
  /-- The names to pass over anywhere in the tree. -/
  ignore : List String := [".git", ".DS_Store"]
  deriving Repr, DecidableEq

namespace Walk

open Files (Node Tree Way)

def join (dir name : String) : String :=
  if dir.toList.getLast? == some '/' then dir ++ name else dir ++ "/" ++ name

/-- The name of the root itself: the last part of its path, or all of a path that ends in dots. -/
def rootName (path : String) : String :=
  match (Files.parts path).getLast? with
  | some p => if p == ".." then path else p
  | none => path

/-- A file, with the names from the root down to it and its path. -/
abbrev Found := List String × String

/-- What an entry is once links are followed as the settings say. -/
def follow (t : Tree) (s : WalkSettings) (root path : String) (ancestors : List (String × Way))
    (here : Way) (node : Node) : Except IoFault (Way × Node) :=
  match s.followLinks, node with
  | true, .link _ =>
    match t.resolve true path with
    | .error e => .error (.walk root path e)
    | .ok (w, .directory) =>
      match ancestors.find? fun a => a.2 = w with
      | some a => .error (.loop root path a.1)
      | none => .ok (w, .directory)
    | .ok (w, n) => .ok (w, n)
  | _, _ => .ok (here, node)

mutual

/-- The files at and below an entry. Ancestors have different ways, so `fuel` above the number of
nodes is never used up. -/
def entry (t : Tree) (s : WalkSettings) (root : String) :
    Nat → List (String × Way) → List String → String → String → Way → Node →
    Except IoFault (List Found)
  | 0, _, _, _, _, _, _ => .ok []
  | fuel + 1, ancestors, names, name, path, here, node => do
    let (here, node) ← follow t s root path ancestors here node
    match node with
    | .file _ => .ok (if s.ignore.contains name then [] else [(names, path)])
    | .link _ => .ok []
    | .directory =>
      if s.ignore.contains name then .ok []
      else if Files.isLongPath path then .error (.walk root path .nameTooLong)
      else entries t s root fuel ((path, here) :: ancestors) names path here (t.children here)

/-- The files at and below the entries of a directory. -/
def entries (t : Tree) (s : WalkSettings) (root : String) :
    Nat → List (String × Way) → List String → String → Way → List (String × Node) →
    Except IoFault (List Found)
  | 0, _, _, _, _, _ => .ok []
  | _ + 1, _, _, _, _, [] => .ok []
  | fuel + 1, ancestors, names, path, here, (name, node) :: rest => do
    let first ← entry t s root fuel ancestors (names ++ [name]) name (join path name)
      (here ++ [name]) node
    let others ← entries t s root fuel ancestors names path here rest
    .ok (first ++ others)

end

/-- The files at and below the root, in the order of the walk. -/
def found (t : Tree) (s : WalkSettings) (root : String) : Except IoFault (List Found) := do
  let fuel := (t.nodes.length + 2) * (t.nodes.length + 2)
  match t.resolve false root with
  | .error e => .error (.walk root root e)
  | .ok (here, .link target) =>
    if s.followLinks then entry t s root fuel [] [] (rootName root) root here (.link target)
    else
      match t.resolve true root with
      | .error e => .error (.walk root root e)
      | .ok (w, .directory) => entries t s root fuel [(root, w)] [] root w (t.children w)
      | .ok _ => .ok []
  | .ok (here, node) => entry t s root fuel [] [] (rootName root) root here node

/-- The name of a file in the bundle. -/
def bundleName (names : List String) : String :=
  "/".intercalate names

/-- **The files of a directory**, each with its name in the bundle and its path, by name. -/
def files (t : Tree) (s : WalkSettings) (root : String) :
    Except NamespaceError (List (String × String)) :=
  match found t s root with
  | .error e => .error (.io e)
  | .ok fs => .ok ((fs.map fun f => (bundleName f.1, f.2)).mergeSort fun a b => a.1 ≤ b.1)

/-- Reads the files in turn. -/
def readAll (t : Tree) : List (String × String) → Except NamespaceError (List (String × Bytes))
  | [] => .ok []
  | (name, path) :: rest =>
    match t.read path with
    | .error e => .error (.io (.file e))
    | .ok content => (readAll t rest).map ((name, content) :: ·)

/-- The directory as an archive. -/
def pack (t : Tree) (s : WalkSettings) (root id : String) : Except NamespaceError Definition := do
  let fs ← files t s root
  let contents ← readAll t fs
  .ok ⟨id, .archive, Zip.write contents⟩

end Walk

end Tenancy
