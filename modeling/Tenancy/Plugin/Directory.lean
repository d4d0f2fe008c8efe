import Tenancy.Plugin.Registration

/-!
# Plugin/Directory — the driver directory

Handles count up from one and are never used again. An owner registers a provider for a service at
most once; a refused registration changes nothing and takes no handle. Entries are listed in the
order in which they were accepted.
-/

namespace Tenancy.Plugin

structure Directory where
  entries : List Listing
  /-- How many registrations were ever accepted. -/
  issued : Nat
  ordered : entries.Pairwise (fun a b => a.handle < b.handle)
  le_issued : ∀ e ∈ entries, e.handle ≤ issued
  deriving Repr, DecidableEq

namespace Directory

instance : EmptyCollection Directory where
  emptyCollection :=
    { entries := []
      issued := 0
      ordered := .nil
      le_issued := nofun }

/-- The owner has registered this provider for this service. -/
def hasLike (d : Directory) (r : Registration) : Bool :=
  d.entries.any fun e =>
    e.registration.owner = r.owner && e.registration.service == r.service &&
      e.registration.provider == r.provider

def alreadyRegistered (r : Registration) : Fault :=
  .rejected r.service r.provider s!"already registered by {r.owner.text}"

/-- The directory with one more entry, under the next handle. -/
def accept (d : Directory) (r : Registration) : Directory where
  entries := d.entries ++ [⟨d.issued + 1, r⟩]
  issued := d.issued + 1
  ordered := by
    refine List.pairwise_append.2 ⟨d.ordered, List.pairwise_singleton _ _, fun e he e' he' => ?_⟩
    obtain rfl := List.mem_singleton.1 he'
    exact Nat.lt_succ_of_le (d.le_issued e he)
  le_issued := by
    intro e he
    rcases List.mem_append.1 he with he | he
    · exact Nat.le_succ_of_le (d.le_issued e he)
    · obtain rfl := List.mem_singleton.1 he
      exact Nat.le_refl _

/-- The directory without a handle. -/
def without (d : Directory) (handle : Nat) : Directory where
  entries := d.entries.filter fun e => e.handle != handle
  issued := d.issued
  ordered := d.ordered.filter _
  le_issued := fun e he => d.le_issued e (List.mem_filter.1 he).1

def register (r : Registration) (d : Directory) : Except Fault Nat × Directory :=
  if d.hasLike r then (.error (alreadyRegistered r), d) else (.ok (d.issued + 1), d.accept r)

def has (d : Directory) (handle : Nat) : Bool :=
  d.entries.any fun e => e.handle == handle

def deregister (handle : Nat) (d : Directory) : Except Fault Unit × Directory :=
  if d.has handle then (.ok (), d.without handle) else (.error (.unknownHandle handle), d)

/-- The entries for a service. -/
def providers (d : Directory) (service : String) : List Listing :=
  d.entries.filter fun e => e.registration.service == service

/-- The entries of an owner. -/
def ownedBy (d : Directory) (owner : ContextId) : List Listing :=
  d.entries.filter fun e => e.registration.owner = owner

instance : Backend Directory where
  register := register
  deregister := deregister
  entries d := (d.entries, d)

end Directory

end Tenancy.Plugin
