import Tenancy.Artifact.Entry
import Tenancy.Artifact.Naming
import Tenancy.Bundle.Definition
import Tenancy.Bundle.Settings
import Tenancy.Error
import Tenancy.Logging.Event

/-!
# Bundle/Extraction — from definitions to a map of artifacts

A definition is first laid out as a list of steps: artifacts to store, things to report, and the
failure it stops at. Storing the steps of all definitions in turn gives the map; a key that is
there already is refused. The outline of several definitions is the concatenation of theirs, so
what one definition gives does not depend on the others until a key meets its like.
-/

namespace Tenancy.Extraction

inductive Step where
  | store (key : ArtifactKey) (content : Bytes)
  | report (e : Event)
  | fail (e : NamespaceError)

/-! ## The outline of a definition -/

def extracted (id : String) (count : Nat) : Event :=
  ⟨.debug, "nsload::extract", "Extracted archive",
    [("resource", .text id), ("entries", .number count)]⟩

def skipped (id name : String) : Event :=
  ⟨.debug, "nsload::extract", "Skipping non-archive entry",
    [("resource", .text id), ("entry", .text name)]⟩

/-- A single code unit is stored under its canonical id. -/
def unitOutline (s : ExtractorSettings) (d : Definition) : List Step :=
  match Naming.canonicalId? d.id s.codeExtensions with
  | none => [.fail (.resourceFormat d.id .unitName)]
  | some id =>
    if s.filter.isAllowed id then [.store (.code id) d.payload]
    else [.fail (.artifactRejected id)]

/-- A file of an archive is stored under the key of its name; the filter applies to code alone. -/
def fileOutline (s : ExtractorSettings) (id name : String) (content : Bytes) : List Step :=
  match Naming.classify? name s.codeExtensions with
  | none => [.fail (.resourceFormat id (.entryName name))]
  | some key =>
    if key.kind = .code && !s.filter.isAllowed key.id then [.fail (.artifactRejected key.id)]
    else [.store key content]

def entryOutline (s : ExtractorSettings) (id : String) : Except Zip.Error Zip.Entry → List Step
  | .error e => [.fail (.resourceFormat id (.archive e))]
  | .ok e =>
    if e.isDirectory then []
    else
      match e.content with
      | .error c => [.fail (.resourceFormat id (.entry e.name c))]
      | .ok content => fileOutline s id e.name content

def Step.isStore : Step → Bool
  | .store .. => true
  | _ => false

def archiveOutline (s : ExtractorSettings) (id : String) : Zip.Listing → List Step
  | .error e => [.fail (.resourceFormat id (.archive e))]
  | .ok entries =>
    let steps := entries.flatMap (entryOutline s id)
    steps ++ [.report (extracted id (steps.countP Step.isStore))]

/-- The id under which an archive inside another one is reported. -/
def innerId (id name : String) : String :=
  id ++ "!" ++ name

/-- An entry of an archive of archives is itself taken apart if its name has an archive extension,
and passed over otherwise. -/
def innerOutline (s : ExtractorSettings) (id : String) : Except Zip.Error Zip.Entry → List Step
  | .error e => [.fail (.resourceFormat id (.archive e))]
  | .ok e =>
    if e.isDirectory || !Naming.hasExtension e.name s.archiveExtensions then
      [.report (skipped id e.name)]
    else
      match e.content with
      | .error c => [.fail (.resourceFormat id (.entry e.name c))]
      | .ok content => archiveOutline s (innerId id e.name) (Zip.read content)

def nestedOutline (s : ExtractorSettings) (id : String) : Zip.Listing → List Step
  | .error e => [.fail (.resourceFormat id (.archive e))]
  | .ok entries => entries.flatMap (innerOutline s id)

def outline (s : ExtractorSettings) (d : Definition) : List Step :=
  match d.kind with
  | .code => unitOutline s d
  | .archive => archiveOutline s d.id (Zip.read d.payload)
  | .archivesInZip => nestedOutline s d.id (Zip.read d.payload)

/-! ## Storing -/

/-- Carries out the steps up to the first failure. -/
def store : List Step → ArtifactMap → Except NamespaceError ArtifactMap
  | [], m => .ok m
  | .store key content :: steps, m =>
    if m.contains key then .error (.duplicateResource key)
    else store steps (m.insert key (.compress key content))
  | .report _ :: steps, m => store steps m
  | .fail e :: _, _ => .error e

/-- What is reported up to the first failure. -/
def reports : List Step → ArtifactMap → List Event
  | [], _ => []
  | .store key content :: steps, m =>
    if m.contains key then [] else reports steps (m.insert key (.compress key content))
  | .report e :: steps, m => e :: reports steps m
  | .fail _ :: _, _ => []

end Extraction

open Extraction in
/-- The artifacts of one definition. -/
def extract (s : ExtractorSettings) (d : Definition) : Except NamespaceError ArtifactMap :=
  store (outline s d) ∅

open Extraction in
/-- **The artifacts of all definitions together**, or the first failure. -/
def extractAll (s : ExtractorSettings) (ds : List Definition) : Except NamespaceError ArtifactMap :=
  store (ds.flatMap (outline s)) ∅

open Extraction in
/-- What is reported while the artifacts of all definitions are stored. -/
def extractAllReports (s : ExtractorSettings) (ds : List Definition) : List Event :=
  reports (ds.flatMap (outline s)) ∅

end Tenancy
