import Tenancy.Artifact.Filter
import Tenancy.Config.Issue
import Tenancy.Dialect

/-!
# Bundle/Settings — how definitions are taken apart

Extensions are written without their dot. A setting that is left out has its default.
-/

namespace Tenancy

structure ExtractorSettings where
  /-- The extensions of code units in archives. -/
  codeExtensions : List String := ["class"]
  /-- The extensions of the archives in an archive of archives. -/
  archiveExtensions : List String := ["jar", "zip"]
  filter : NameFilter := {}
  deriving Repr, DecidableEq

namespace NameFilter

def toJson (f : NameFilter) : Json :=
  .obj [("allow", .strs f.allow), ("deny", .strs f.deny)]

def read {V : Type} (d : Dialect V) (v : V) : Option NameFilter :=
  match d.record? ["allow", "deny"] v with
  | some [allow, deny] => do
    let allow ← Dialect.field? (d.listOf? d.text?) (some []) allow
    let deny ← Dialect.field? (d.listOf? d.text?) (some []) deny
    some { allow, deny }
  | _ => none

end NameFilter

namespace ExtractorSettings

def isBadExtension (ext : String) : Bool :=
  ext.isEmpty || ext.toList.head? == some '.'

/-- What is wrong with the settings, the first fault only. -/
def validate (s : ExtractorSettings) : Except ExtractorIssue Unit :=
  if s.codeExtensions.isEmpty then .error .noCodeExtension
  else if (s.codeExtensions ++ s.archiveExtensions).any isBadExtension then .error .badExtension
  else .ok ()

def toJson (s : ExtractorSettings) : Json :=
  .obj [("code_extensions", .strs s.codeExtensions),
    ("archive_extensions", .strs s.archiveExtensions), ("filter", s.filter.toJson)]

def read {V : Type} (d : Dialect V) (v : V) : Option ExtractorSettings :=
  match d.record? ["code_extensions", "archive_extensions", "filter"] v with
  | some [code, archive, filter] => do
    let code ← Dialect.field? (d.listOf? d.text?) (some ["class"]) code
    let archive ← Dialect.field? (d.listOf? d.text?) (some ["jar", "zip"]) archive
    let filter ← Dialect.field? (NameFilter.read d) (some {}) filter
    some { codeExtensions := code, archiveExtensions := archive, filter }
  | _ => none

def ofJson? (j : Json) : Option ExtractorSettings :=
  read Json.dialect j

end ExtractorSettings

end Tenancy
