import Tenancy.Bytes.Basic

/-!
# Files/Tree — a directory tree and the paths into it

A tree lists its nodes by their way from the top, the directory that relative paths start from.
It is a directory and what is below it, not a whole file system: nothing is known of what lies
outside, and an absolute path finds nothing. Links are followed while a path is resolved; the
result is a way without links, so two paths to one node resolve alike.
-/

namespace Tenancy

/-- Why the file system refuses something. -/
inductive FileFault where
  | notFound
  | exists
  | notDirectory
  | isDirectory
  | nameTooLong
  | linkLoop
  /-- The path holds the character that ends paths. -/
  | endMark
  deriving Repr, DecidableEq

def FileFault.message : FileFault → String
  | .notFound => "No such file or directory (os error 2)"
  | .exists => "File exists (os error 17)"
  | .notDirectory => "Not a directory (os error 20)"
  | .isDirectory => "Is a directory (os error 21)"
  | .nameTooLong => "File name too long (os error 36)"
  | .linkLoop => "Too many levels of symbolic links (os error 40)"
  | .endMark => "file name contained an unexpected NUL byte"

namespace Files

inductive Node where
  | file (content : Bytes)
  | directory
  | link (target : String)
  deriving Repr, DecidableEq

/-- The names from the top down to a node. -/
abbrev Way := List String

structure Tree where
  nodes : List (Way × Node)

/-- The parts of a path between slashes, without empty ones and single dots. -/
def parts (path : String) : List String :=
  ((path.toList.splitOn '/').map String.ofList).filter fun p => p != "" && p != "."

def isAbsolute (path : String) : Bool :=
  path.toList.head? == some '/'

/-- A path that ends in a slash names a directory. -/
def wantsDirectory (path : String) : Bool :=
  path.toList.getLast? == some '/' || ['/', '.'].isSuffixOf path.toList

/-- A name has at most 255 bytes. -/
def isLongName (name : String) : Bool :=
  255 < name.utf8ByteSize

/-- A path has at most 4095 bytes. -/
def isLongPath (path : String) : Bool :=
  4095 < path.utf8ByteSize

/-- What a path may not be, wherever it leads: too long, empty, or with an end mark in it. -/
def checkPath (path : String) : Except FileFault Unit :=
  if path.toList.contains '\x00' then .error .endMark
  else if path.isEmpty then .error .notFound
  else if isLongPath path then .error .nameTooLong
  else .ok ()

namespace Tree

def empty : Tree := ⟨[]⟩

def at? (t : Tree) (w : Way) : Option Node :=
  if w.isEmpty then some .directory else t.nodes.lookup w

/-- The names in a directory with their nodes, in the order of the tree. -/
def children (t : Tree) (w : Way) : List (String × Node) :=
  t.nodes.filterMap fun n =>
    match n.1.getLast? with
    | some name => if n.1.dropLast = w then some (name, n.2) else none
    | none => none

/-! ## Resolving -/

/-- Walks the parts of a path from a directory. At most `links` links are followed, and a link in
the last place only if `followLast`. -/
def walkParts (t : Tree) (followLast : Bool) :
    Nat → Nat → Way → List String → Except FileFault (Way × Node)
  | 0, _, _, _ => .error .linkLoop
  | fuel + 1, links, here, ps =>
    match ps with
    | [] =>
      match t.at? here with
      | some n => .ok (here, n)
      | none => .error .notFound
    | p :: rest =>
      match t.at? here with
      | some .directory =>
        if p == ".." then walkParts t followLast fuel links here.dropLast rest
        else if isLongName p then .error .nameTooLong
        else
          let next := here ++ [p]
          match t.at? next with
          | none => .error .notFound
          | some (.link target) =>
            if rest.isEmpty && !followLast then .ok (next, .link target)
            else if target.isEmpty then .error .notFound
            else
              match links with
              | 0 => .error .linkLoop
              | links + 1 =>
                if isAbsolute target then .error .notFound
                else walkParts t followLast fuel links here (parts target ++ rest)
          | some _ => walkParts t followLast fuel links next rest
      | some _ => .error .notDirectory
      | none => .error .notFound

/-- Walks the parts of a path from a directory; no link is followed so often that the steps run
out. -/
def walk (t : Tree) (followLast : Bool) (here : Way) (ps : List String) :
    Except FileFault (Way × Node) :=
  let steps := 64 + ps.length +
    40 * t.nodes.foldl (fun k n => match n.2 with | .link s => k + s.length | _ => k) 0
  walkParts t followLast steps 40 here ps

/-- The node at a path, and its way without links. Paths are relative to the top of the tree; one
that is absolute, or that a link makes absolute, leads out of it and finds nothing. -/
def resolve (t : Tree) (followLast : Bool) (path : String) : Except FileFault (Way × Node) := do
  checkPath path
  if isAbsolute path && !(parts path).isEmpty then .error .notFound
  else
    let (w, n) ← t.walk (followLast || wantsDirectory path) [] (parts path)
    if wantsDirectory path && n != .directory then .error .notDirectory else .ok (w, n)

/-- There is something at the path, links followed. -/
def exists? (t : Tree) (path : String) : Bool :=
  (t.resolve true path).isOk

def isFile (t : Tree) (path : String) : Bool :=
  match t.resolve true path with
  | .ok (_, .file _) => true
  | _ => false

def read (t : Tree) (path : String) : Except FileFault Bytes :=
  match t.resolve true path with
  | .ok (_, .file content) => .ok content
  | .ok (_, .directory) => .error .isDirectory
  | .ok (_, .link _) => .error .linkLoop
  | .error e => .error e

/-! ## Making -/

/-- The tree with a node at a way, instead of one that is there. -/
def put (t : Tree) (w : Way) (n : Node) : Tree :=
  if (t.nodes.lookup w).isSome then
    ⟨t.nodes.map fun m => if m.1 = w then (w, n) else m⟩
  else ⟨t.nodes ++ [(w, n)]⟩

/-- The tree with the directories above a way. -/
def withParents (t : Tree) (w : Way) : Tree :=
  (List.range w.length).foldl (fun t i =>
    let above := w.take i
    if (t.at? above).isSome then t else t.put above .directory) t

def addFile (t : Tree) (path : String) (content : Bytes) : Tree :=
  (t.withParents (parts path)).put (parts path) (.file content)

def addLink (t : Tree) (path target : String) : Tree :=
  (t.withParents (parts path)).put (parts path) (.link target)

def addDirectory (t : Tree) (path : String) : Tree :=
  let w := parts path
  let t := t.withParents w
  if (t.at? w).isSome then t else t.put w .directory

end Tree

end Files

end Tenancy
