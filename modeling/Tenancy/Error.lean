import Tenancy.Artifact.Key
import Tenancy.Bytes.Hex
import Tenancy.Config.Issue
import Tenancy.Deflate.Bits
import Tenancy.Files.Tree
import Tenancy.Json.Fault
import Tenancy.Logging.Directive
import Tenancy.Text.Quoted
import Tenancy.Zip.Archive

/-!
# Error — why an operation fails

Every error is a cause; its wording is in `message` alone.
-/

namespace Tenancy

/-- The identity of a source, never used twice. -/
structure ContextId where
  number : Nat
  deriving Repr, DecidableEq

namespace ContextId

def text (c : ContextId) : String :=
  s!"ctx#{c.number}"

instance : LT ContextId := ⟨fun a b => a.number < b.number⟩

instance (a b : ContextId) : Decidable (a < b) :=
  inferInstanceAs (Decidable (a.number < b.number))

instance : LinearKey ContextId where
  decLt := inferInstance
  decEq := inferInstance
  irrefl a := Nat.lt_irrefl a.number
  trans := Nat.lt_trans
  connected a b := (Nat.lt_trichotomy a.number b.number).imp_right (Or.imp_left (congrArg mk))

end ContextId

/-! ## The causes -/

/-- What is wrong with an argument. -/
inductive ArgumentFault where
  | blankName
  | noResources (name : String)
  | resource (issue : ResourceIssue)
  deriving Repr, DecidableEq

def ArgumentFault.message : ArgumentFault → String
  | .blankName => "namespace name must not be blank"
  | .noResources name => s!"namespace '{name}' has no resources defined"
  | .resource i => i.message

/-- Why a resource cannot be taken apart. -/
inductive FormatFault where
  | unitName
  | archive (e : Zip.Error)
  | entry (name : String) (e : Zip.ContentError)
  | entryName (name : String)
  | hex (e : Hex.Error)
  deriving Repr, DecidableEq

def FormatFault.message : FormatFault → String
  | .unitName => "not a valid code unit name"
  | .archive e => e.message
  | .entry name e => s!"entry '{name}': " ++ e.message
  | .entryName name => s!"unusable entry name '{name}'"
  | .hex e => "invalid hex payload: " ++ e.message

/-- Why a stored artifact cannot be used. -/
inductive Corruption where
  | stream (fault : Deflate.Fault)
  | header (fault : Json.Fault)
  /-- What a platform finds wrong with it, in its own words. -/
  | unusable (reason : String)
  deriving Repr, DecidableEq

def Corruption.message : Corruption → String
  | .stream f => f.message
  | .header f => "invalid unit header: " ++ f.message
  | .unusable reason => reason

inductive ActivationError where
  | mismatch (requested active : String)
  | notActive (requested : String)
  deriving Repr, DecidableEq

def ActivationError.message : ActivationError → String
  | .mismatch r a =>
    s!"Attempted to deactivate namespace '{r}' but the active frame is '{a}'"
  | .notActive r => s!"Attempted to deactivate namespace '{r}' but no namespace is active"

/-- What stops the set-up of logging, or of a service, before it begins. -/
inductive SettingsFault where
  | invalid (issues : List ConfigIssue)
  | logFormat (value : String)
  | logOutput (value : String)
  | logDirective (directive : String) (reason : DirectiveFault)
  | logDirectory (e : FileFault)
  | logFile (path : String) (e : FileFault)
  | alreadyLogging
  deriving Repr, DecidableEq

def SettingsFault.message : SettingsFault → String
  | .invalid issues =>
    "Configuration validation failed:\n" ++ "\n".intercalate (issues.map ConfigIssue.message)
  | .logFormat v => s!"Invalid log format: {v} (must be 'json' or 'text')"
  | .logOutput v => s!"Invalid log output: {v} (must be 'stdout', 'stderr' or 'file')"
  | .logDirective d r => s!"Invalid log directive '{d}': " ++ r.message
  | .logDirectory e => "Failed to create log directory: " ++ e.message
  | .logFile p e => s!"Failed to open log file {p}: " ++ e.message
  | .alreadyLogging =>
    "Failed to install subscriber: a global default trace dispatcher has already been set"

inductive IoFault where
  | file (e : FileFault)
  | walk (root path : String) (e : FileFault)
  | loop (root path ancestor : String)
  deriving Repr, DecidableEq

def IoFault.message : IoFault → String
  | .file e => e.message
  | .walk root path e =>
    "Failed to walk " ++ Text.quoted root ++ s!": IO error for operation on {path}: " ++
      e.message
  | .loop root path ancestor =>
    "Failed to walk " ++ Text.quoted root ++
      s!": File system loop found: {path} points to an ancestor {ancestor}"

inductive NamespaceError where
  | invalidArgument (fault : ArgumentFault)
  | resourceFormat (id : String) (fault : FormatFault)
  | duplicateResource (key : ArtifactKey)
  | artifactRejected (id : String)
  | artifactNotFound (key : ArtifactKey) (context : ContextId)
  | contextShutdown (context : ContextId) (name : String)
  | corruptArtifact (key : ArtifactKey) (fault : Corruption)
  | unknownNamespace (name : String)
  | activation (e : ActivationError)
  | config (fault : SettingsFault)
  | io (fault : IoFault)
  deriving Repr, DecidableEq

/-! ## The wording -/

def NamespaceError.message : NamespaceError → String
  | .invalidArgument f => "Invalid argument: " ++ f.message
  | .resourceFormat id f => s!"Malformed resource '{id}': " ++ f.message
  | .duplicateResource key => s!"Duplicate resource {key.text} in one extraction"
  | .artifactRejected id => s!"Artifact rejected by name filter: {id}"
  | .artifactNotFound key c => s!"Artifact not found: {key.text} (searched from context {c.text})"
  | .contextShutdown c name => s!"Context {c.text} for namespace '{name}' has been shut down"
  | .corruptArtifact key f => s!"Stored artifact {key.text} is corrupt: " ++ f.message
  | .unknownNamespace name => s!"There is no namespace defined with name '{name}'"
  | .activation e => "Activation error: " ++ e.message
  | .config f => "Configuration error: " ++ f.message
  | .io f => "I/O error: " ++ f.message

/-- What a failure says that nobody answers for: the operation that met it is broken off, and so is
all that it was part of, up to a scope that catches what happens in it. -/
def NamespaceError.uncaught? : NamespaceError → Option String
  | .resourceFormat _ (.archive .locked) => some Zip.Error.locked.message
  | .config (.logDirective _ e) => e.uncaught?
  | _ => none

def NamespaceError.isNotFound : NamespaceError → Bool
  | .artifactNotFound .. => true
  | _ => false

def NamespaceError.isShutdown : NamespaceError → Bool
  | .contextShutdown .. => true
  | _ => false

end Tenancy
