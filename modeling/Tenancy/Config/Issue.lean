/-!
# Config/Issue — what can be wrong with a configuration

Each kind of settings has its own list of faults; an issue says in which part of the whole
configuration a fault lies.
-/

namespace Tenancy

inductive ExtractorIssue where
  | noCodeExtension
  | badExtension
  deriving Repr, DecidableEq

def ExtractorIssue.message : ExtractorIssue → String
  | .noCodeExtension => "At least one code extension is required"
  | .badExtension => "Extensions must be non-empty and given without a leading dot"

inductive ResourceIssue where
  | blankId
  | notOneSource (id : String)
  | directoryKind (id : String)
  deriving Repr, DecidableEq

def ResourceIssue.message : ResourceIssue → String
  | .blankId => "Resource id cannot be blank"
  | .notOneSource id => s!"Resource '{id}' must set exactly one of path, payload_hex or dir"
  | .directoryKind id => s!"Directory resource '{id}' can only be an archive"

inductive NamespaceIssue where
  | otherKey (name : String)
  | blankName
  | noResources
  | resource (issue : ResourceIssue)
  | duplicateId (id : String)
  deriving Repr, DecidableEq

def NamespaceIssue.message : NamespaceIssue → String
  | .otherKey name => s!"name '{name}' does not match its key"
  | .blankName => "Namespace name cannot be blank"
  | .noResources => "Resources must be defined"
  | .resource i => i.message
  | .duplicateId id => s!"Duplicate resource id '{id}'"

inductive LoggingIssue where
  | unknownLevel (level : String)
  | unknownModuleLevel (level module : String)
  | emptyFile
  deriving Repr, DecidableEq

def LoggingIssue.message : LoggingIssue → String
  | .unknownLevel level => s!"Unknown log level '{level}'"
  | .unknownModuleLevel level module => s!"Unknown log level '{level}' for module '{module}'"
  | .emptyFile => "Log file path cannot be empty when output is 'file'"

inductive ConfigIssue where
  | «namespace» (name : String) (issue : NamespaceIssue)
  | extractor (issue : ExtractorIssue)
  | blankService
  | logging (issue : LoggingIssue)
  deriving Repr, DecidableEq

def ConfigIssue.message : ConfigIssue → String
  | .namespace name i => s!"Namespace '{name}': " ++ i.message
  | .extractor i => "Extractor: " ++ i.message
  | .blankService => "Bridge: Service names cannot be blank"
  | .logging i => "Logging: " ++ i.message

end Tenancy
