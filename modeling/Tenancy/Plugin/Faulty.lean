import Tenancy.Plugin.Directory

/-!
# Plugin/Faulty — registries that refuse

One refuses every registration and lists nothing; the other is a directory that refuses to give up
a fixed set of handles. `AnyBackend` is one of the registries of this library.
-/

namespace Tenancy.Plugin

/-- Refuses every registration. -/
structure ReadOnly where
  deriving Repr, DecidableEq

instance : Backend ReadOnly where
  register r s := (.error (.rejected r.service r.provider "read-only"), s)
  deregister h s := (.error (.unknownHandle h), s)
  entries s := ([], s)

/-- A directory that keeps the handles that `stuck` holds of. -/
structure Faulty (stuck : Nat → Bool) where
  directory : Directory

instance (stuck : Nat → Bool) : Backend (Faulty stuck) where
  register r s :=
    let (answer, d) := s.directory.register r
    (answer, ⟨d⟩)
  deregister h s :=
    if stuck h then (.error (.unknownHandle h), s)
    else
      let (answer, d) := s.directory.deregister h
      (answer, ⟨d⟩)
  entries s := (s.directory.entries, s)

inductive AnyBackend where
  | directory (d : Directory)
  | readOnly (r : ReadOnly)
  | sticky (f : Faulty fun _ => true)

instance : Backend AnyBackend where
  register r
    | .directory d => (fun x => (x.1, .directory x.2)) (Backend.register r d)
    | .readOnly s => (fun x => (x.1, .readOnly x.2)) (Backend.register r s)
    | .sticky f => (fun x => (x.1, .sticky x.2)) (Backend.register r f)
  deregister h
    | .directory d => (fun x => (x.1, .directory x.2)) (Backend.deregister h d)
    | .readOnly s => (fun x => (x.1, .readOnly x.2)) (Backend.deregister h s)
    | .sticky f => (fun x => (x.1, .sticky x.2)) (Backend.deregister h f)
  entries
    | .directory d => (fun x => (x.1, .directory x.2)) (Backend.entries d)
    | .readOnly s => (fun x => (x.1, .readOnly x.2)) (Backend.entries s)
    | .sticky f => (fun x => (x.1, .sticky x.2)) (Backend.entries f)

end Tenancy.Plugin
