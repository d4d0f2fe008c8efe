import Tenancy.Json.Shape
import Tenancy.Table

/-!
# Artifact/Key — what an artifact is looked up by

A code unit goes by its dotted id and any other file by its path. The kind is part of the key, so
the two may share an id; in key order all code comes first.
-/

namespace Tenancy

inductive ArtifactKind where
  | code
  | dataFile
  deriving Repr, DecidableEq

/-- The word for the kind in configuration and requests. -/
def ArtifactKind.word : ArtifactKind → String
  | .code => "code"
  | .dataFile => "data_file"

def ArtifactKind.ofWord? : String → Option ArtifactKind
  | "code" => some .code
  | "data_file" => some .dataFile
  | _ => none

structure ArtifactKey where
  kind : ArtifactKind
  id : String
  deriving Repr, DecidableEq

namespace ArtifactKey

def code (id : String) : ArtifactKey := ⟨.code, id⟩

def data (path : String) : ArtifactKey := ⟨.dataFile, path⟩

/-- The key as messages show it. -/
def text : ArtifactKey → String
  | ⟨.code, id⟩ => "code:" ++ id
  | ⟨.dataFile, id⟩ => "file:" ++ id

/-- Code before data files, then by id. -/
def Before (a b : ArtifactKey) : Prop :=
  match a.kind, b.kind with
  | .code, .dataFile => True
  | .dataFile, .code => False
  | _, _ => a.id < b.id

instance : LT ArtifactKey := ⟨Before⟩

instance decidableLT : (a b : ArtifactKey) → Decidable (a < b)
  | ⟨.code, a⟩, ⟨.code, b⟩ => inferInstanceAs (Decidable (a < b))
  | ⟨.code, _⟩, ⟨.dataFile, _⟩ => .isTrue trivial
  | ⟨.dataFile, _⟩, ⟨.code, _⟩ => .isFalse fun h => h
  | ⟨.dataFile, a⟩, ⟨.dataFile, b⟩ => inferInstanceAs (Decidable (a < b))

instance : LinearKey ArtifactKey where
  decLt := inferInstance
  decEq := inferInstance
  irrefl := by
    rintro ⟨_ | _, id⟩ <;> exact String.lt_irrefl id
  trans := by
    rintro ⟨_ | _, a⟩ ⟨_ | _, b⟩ ⟨_ | _, c⟩ h h' <;>
      first | exact String.lt_trans h h' | exact h.elim | exact h'.elim | trivial
  connected := by
    rintro ⟨_ | _, a⟩ ⟨_ | _, b⟩
    · exact (LinearKey.connected a b).imp_right (Or.imp_left (congrArg (mk .code)))
    · exact .inl trivial
    · exact .inr (.inr trivial)
    · exact (LinearKey.connected a b).imp_right (Or.imp_left (congrArg (mk .dataFile)))

def toJson (k : ArtifactKey) : Json :=
  .obj [("kind", .str k.kind.word), ("id", .str k.id)]

def ofJson? (j : Json) : Option ArtifactKey :=
  match j.record? ["kind", "id"] with
  | some [kind, id] => do
    let kind ← Json.field? (fun j => j.choice?.bind ArtifactKind.ofWord?) none kind
    let id ← Json.field? Json.asText? none id
    some { kind, id }
  | _ => none

end ArtifactKey

end Tenancy
