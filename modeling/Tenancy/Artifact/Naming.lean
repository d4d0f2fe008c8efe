import Tenancy.Artifact.Key
import Tenancy.Text.Blank

/-!
# Artifact/Naming — from the names of files to the ids of artifacts

A code unit named by a path with a code extension, or by its dotted id, gets the dotted id: leading
slashes and one extension are dropped and separators become dots. A name with an empty segment
names no unit. Any other file keeps its path without the leading slashes.
-/

namespace Tenancy.Naming

/-- What is left of `name` before a given ending. -/
def stripEnding? (ending name : List Char) : Option (List Char) :=
  if ending.isSuffixOf name then some (name.take (name.length - ending.length)) else none

/-- The part before `.ext`, for the first of the extensions that fits. -/
def stripExtension? (exts : List String) (name : List Char) : Option (List Char) :=
  exts.findSome? fun ext => stripEnding? ('.' :: ext.toList) name

def hasExtension (name : String) (exts : List String) : Bool :=
  (stripExtension? exts name.toList).isSome

def dropSlashes (cs : List Char) : List Char :=
  cs.dropWhile (· == '/')

/-- Separators of either kind become dots. -/
def dotted (cs : List Char) : List Char :=
  cs.map fun c => if c == '/' || c == '\\' then '.' else c

/-- The parts between dots, one more than there are dots. -/
def segments (cs : List Char) : List (List Char) :=
  cs.splitOn '.'

def canonicalChars? (exts : List String) (name : List Char) : Option (List Char) :=
  let trimmed := dropSlashes (Text.trim name)
  let id := dotted ((stripExtension? exts trimmed).getD trimmed)
  if (segments id).any List.isEmpty then none else some id

/-- The dotted id of a code unit. -/
def canonicalId? (name : String) (exts : List String) : Option String :=
  (canonicalChars? exts name.toList).map String.ofList

/-- The key of an archive entry: code if its path has a code extension. -/
def classify? (name : String) (exts : List String) : Option ArtifactKey :=
  let path := dropSlashes name.toList
  if path.isEmpty then none
  else if (stripExtension? exts path).isSome then
    (canonicalChars? exts path).map fun id => .code (String.ofList id)
  else some (.data (String.ofList path))

/-- The path of the manifest that lists the providers of a service. -/
def manifestPath (manifestPrefix service : String) : String :=
  manifestPrefix ++ service

end Tenancy.Naming
