import Tenancy.Proofs.Plugin.Directory

/-!
# Proofs/Plugin/Handles — a driver directory is its history

    entries  =  registrations that were accepted, in their order,
                without those whose handle was given up

A directory that begins empty and is asked anything is told by the receipts that it has given
(`Directory.Accounts`).  The handles on them are 1, 2, 3 and so on, whatever was given up in
between: so a handle names one registration for ever (`Directory.history_of_requests`).
-/

namespace Tenancy.Plugin

/-- Who registers which provider for which service. -/
def Registration.subject (r : Registration) : ContextId × String × String :=
  (r.owner, r.service, r.provider)

/-- What a directory is asked to do. -/
inductive Request where
  | register (r : Registration)
  | deregister (handle : Nat)

/-- A request with the answer to it. -/
inductive Receipt where
  | registered (r : Registration) (answer : Except Fault Nat)
  | deregistered (handle : Nat) (answer : Except Fault Unit)

namespace Receipt

/-- A registration that was accepted, under the handle that it was given. -/
def accepted? : Receipt → Option Listing
  | .registered r (.ok handle) => some ⟨handle, r⟩
  | _ => none

/-- A handle that was given up. -/
def givenUp? : Receipt → Option Nat
  | .deregistered handle (.ok _) => some handle
  | _ => none

end Receipt

/-- The registrations that were ever accepted, in their order. -/
def accepted (receipts : List Receipt) : List Listing :=
  receipts.filterMap Receipt.accepted?

/-- The handles that were ever given up. -/
def givenUp (receipts : List Receipt) : List Nat :=
  receipts.filterMap Receipt.givenUp?

@[simp] theorem accepted_concat (receipts : List Receipt) (c : Receipt) :
    accepted (receipts ++ [c]) = accepted receipts ++ c.accepted?.toList := by
  rw [accepted, List.filterMap_append]
  cases h : c.accepted? <;> simp [h, accepted]

@[simp] theorem givenUp_concat (receipts : List Receipt) (c : Receipt) :
    givenUp (receipts ++ [c]) = givenUp receipts ++ c.givenUp?.toList := by
  rw [givenUp, List.filterMap_append]
  cases h : c.givenUp? <;> simp [h, givenUp]

namespace Directory

variable {d : Directory}

/-! ## One request -/

/-- The subjects that are registered. -/
def subjects (d : Directory) : List (ContextId × String × String) :=
  d.entries.map (·.registration.subject)

/-- The handles that are in use. -/
def handles (d : Directory) : List Nat :=
  d.entries.map (·.handle)

theorem hasLike_iff (r : Registration) : d.hasLike r = true ↔ r.subject ∈ d.subjects := by
  simp only [hasLike, List.any_eq_true, Bool.and_eq_true, decide_eq_true_iff, beq_iff_eq, subjects,
    List.mem_map, Registration.subject, Prod.mk.injEq, and_assoc]

theorem has_iff (handle : Nat) : d.has handle = true ↔ handle ∈ d.handles := by
  simp only [has, List.any_eq_true, beq_iff_eq, handles, List.mem_map]

theorem register_of_mem {r : Registration} (h : r.subject ∈ d.subjects) :
    d.register r = (.error (alreadyRegistered r), d) :=
  if_pos ((hasLike_iff r).2 h)

theorem register_of_not_mem {r : Registration} (h : r.subject ∉ d.subjects) :
    d.register r = (.ok (d.issued + 1), d.accept r) :=
  if_neg fun hlike => h ((hasLike_iff r).1 hlike)

theorem deregister_of_mem {handle : Nat} (h : handle ∈ d.handles) :
    d.deregister handle = (.ok (), d.without handle) :=
  if_pos ((has_iff handle).2 h)

theorem deregister_of_not_mem {handle : Nat} (h : handle ∉ d.handles) :
    d.deregister handle = (.error (.unknownHandle handle), d) :=
  if_neg fun hhas => h ((has_iff handle).1 hhas)

theorem le_issued_of_mem {handle : Nat} (h : handle ∈ d.handles) : handle ≤ d.issued := by
  obtain ⟨e, he, rfl⟩ := List.mem_map.1 h
  exact d.le_issued e he

def serve (d : Directory) : Request → Receipt × Directory
  | .register r => (.registered r (d.register r).1, (d.register r).2)
  | .deregister handle => (.deregistered handle (d.deregister handle).1, (d.deregister handle).2)

/-- Requests one after another, with the receipts for them. -/
def serveAll (d : Directory) : List Request → List Receipt × Directory
  | [] => ([], d)
  | q :: qs =>
    let (receipt, d) := d.serve q
    let (receipts, d) := d.serveAll qs
    (receipt :: receipts, d)

/-! ## The history of a directory -/

/-- **The receipts account for the directory.** -/
structure Accounts (receipts : List Receipt) (d : Directory) : Prop where
  numbered : (accepted receipts).map (·.handle) = List.range' 1 d.issued
  givenUp_le : ∀ handle ∈ givenUp receipts, handle ≤ d.issued
  entries : d.entries = (accepted receipts).filter fun e => !(givenUp receipts).contains e.handle
  apart : d.subjects.Nodup

namespace Accounts

variable {receipts : List Receipt}

theorem length_accepted (h : Accounts receipts d) : (accepted receipts).length = d.issued := by
  have hlength := congrArg List.length h.numbered
  rwa [List.length_map, List.length_range'] at hlength

/-- A refusal leaves the accounts as they are. -/
theorem refused (h : Accounts receipts d) {c : Receipt} (ha : c.accepted? = none)
    (hg : c.givenUp? = none) : Accounts (receipts ++ [c]) d := by
  have haccepted : accepted (receipts ++ [c]) = accepted receipts := by simp [ha]
  have hgivenUp : givenUp (receipts ++ [c]) = givenUp receipts := by simp [hg]
  refine ⟨?_, ?_, ?_, h.apart⟩
  · rw [haccepted]; exact h.numbered
  · rw [hgivenUp]; exact h.givenUp_le
  · rw [haccepted, hgivenUp]; exact h.entries

theorem accept (h : Accounts receipts d) {r : Registration} (hr : r.subject ∉ d.subjects) :
    Accounts (receipts ++ [.registered r (.ok (d.issued + 1))]) (d.accept r) := by
  have haccepted : accepted (receipts ++ [.registered r (.ok (d.issued + 1))]) =
      accepted receipts ++ [⟨d.issued + 1, r⟩] := accepted_concat ..
  have hgivenUp : givenUp (receipts ++ [.registered r (.ok (d.issued + 1))]) = givenUp receipts :=
    (givenUp_concat ..).trans (List.append_nil _)
  -- the new handle is greater than all that were given up
  have hnew : d.issued + 1 ∉ givenUp receipts := fun hmem =>
    Nat.not_succ_le_self _ (h.givenUp_le _ hmem)
  refine ⟨?_, fun handle hhandle => ?_, ?_, ?_⟩
  · show _ = List.range' 1 (d.issued + 1)
    rw [haccepted, List.map_append, h.numbered, List.range'_1_concat, Nat.add_comm 1]
    rfl
  · rw [hgivenUp] at hhandle
    exact Nat.le_succ_of_le (h.givenUp_le handle hhandle)
  · rw [haccepted, hgivenUp, List.filter_append, ← h.entries, List.filter_cons_of_pos (by simpa)]
    rfl
  · have hsubjects : (d.accept r).subjects = d.subjects ++ [r.subject] := List.map_append
    rw [hsubjects]
    exact h.apart.append (List.nodup_singleton _) (List.disjoint_singleton.2 hr)

theorem without (h : Accounts receipts d) {handle : Nat} (hh : handle ∈ d.handles) :
    Accounts (receipts ++ [.deregistered handle (.ok ())]) (d.without handle) := by
  have haccepted : accepted (receipts ++ [.deregistered handle (.ok ())]) = accepted receipts :=
    (accepted_concat ..).trans (List.append_nil _)
  have hgivenUp : givenUp (receipts ++ [.deregistered handle (.ok ())]) =
      givenUp receipts ++ [handle] := givenUp_concat ..
  have hle : handle ≤ d.issued := le_issued_of_mem hh
  refine ⟨?_, ?_, ?_, ?_⟩
  · rw [haccepted]; exact h.numbered
  · rw [hgivenUp]
    exact List.forall_mem_append.2 ⟨h.givenUp_le, List.forall_mem_singleton.2 hle⟩
  · show d.entries.filter (fun e => e.handle != handle) = _
    rw [haccepted, hgivenUp, h.entries, List.filter_filter]
    refine List.filter_congr fun e _ => ?_
    rw [List.contains_append, List.contains_cons, List.contains_nil, Bool.or_false, Bool.not_or,
      Bool.and_comm]
    rfl
  · exact h.apart.sublist (List.filter_sublist.map _)

/-- **One more request**: what comes of it is on its receipt. -/
theorem serve (h : Accounts receipts d) (q : Request) :
    Accounts (receipts ++ [(d.serve q).1]) (d.serve q).2 := by
  cases q with
  | register r =>
    by_cases hr : r.subject ∈ d.subjects
    · rw [Directory.serve, register_of_mem hr]
      exact h.refused rfl rfl
    · rw [Directory.serve, register_of_not_mem hr]
      exact h.accept hr
  | deregister handle =>
    by_cases hh : handle ∈ d.handles
    · rw [Directory.serve, deregister_of_mem hh]
      exact h.without hh
    · rw [Directory.serve, deregister_of_not_mem hh]
      exact h.refused rfl rfl

theorem serveAll (h : Accounts receipts d) (qs : List Request) :
    Accounts (receipts ++ (d.serveAll qs).1) (d.serveAll qs).2 := by
  induction qs generalizing receipts d with
  | nil =>
    rw [Directory.serveAll, List.append_nil]
    exact h
  | cons q qs ih =>
    have hrest := ih (h.serve q)
    rw [List.append_assoc] at hrest
    exact hrest

end Accounts

theorem accounts_empty : Accounts [] ∅ :=
  ⟨rfl, nofun, rfl, List.nodup_nil⟩

theorem length_serveAll (d : Directory) (qs : List Request) :
    (d.serveAll qs).1.length = qs.length := by
  induction qs generalizing d with
  | nil => rfl
  | cons q qs ih => exact congrArg Nat.succ (ih _)

/-- **A directory is its history.**  After any requests,

* the entries come in the order of their handles; they are the registrations that were accepted and
  not given up, in the order in which they were accepted, and no two have the same subject;
* the handles that were ever given are 1, 2, 3 and so on, and are no more than the requests;
* a registration is refused if and only if its subject is there, and then changes nothing; else it
  is given the number after that of all registrations ever accepted;
* giving up fails if and only if the handle is not there, and then changes nothing;
* what there is for a service, or of an owner, is a part of the entries in their order. -/
theorem history_of_requests (qs : List Request) :
    let receipts := ((∅ : Directory).serveAll qs).1
    let d := ((∅ : Directory).serveAll qs).2
    (d.entries.Pairwise (fun e e' => e.handle < e'.handle) ∧
      d.entries = (accepted receipts).filter (fun e => !(givenUp receipts).contains e.handle) ∧
      d.subjects.Nodup) ∧
    ((accepted receipts).map (·.handle) = List.range' 1 (accepted receipts).length ∧
      (accepted receipts).length ≤ qs.length) ∧
    (∀ r : Registration,
      (r.subject ∈ d.subjects ∧ d.register r = (.error (alreadyRegistered r), d)) ∨
        (r.subject ∉ d.subjects ∧ (d.register r).1 = .ok ((accepted receipts).length + 1))) ∧
    (∀ handle,
      (handle ∈ d.handles ∧ (d.deregister handle).1 = .ok ()) ∨
        (handle ∉ d.handles ∧ d.deregister handle = (.error (.unknownHandle handle), d))) ∧
    (∀ service, d.providers service =
      d.entries.filter fun e => e.registration.service == service) ∧
    ∀ owner, d.ownedBy owner = d.entries.filter fun e => e.registration.owner = owner := by
  intro receipts d
  have h : Accounts receipts d := accounts_empty.serveAll qs
  refine ⟨⟨d.ordered, h.entries, h.apart⟩, ⟨?_, ?_⟩, fun r => ?_, fun handle => ?_,
    fun _ => rfl, fun _ => rfl⟩
  · rw [h.length_accepted]
    exact h.numbered
  · rw [← length_serveAll ∅ qs]
    exact List.length_filterMap_le _ _
  · by_cases hr : r.subject ∈ d.subjects
    · exact .inl ⟨hr, register_of_mem hr⟩
    · rw [h.length_accepted, register_of_not_mem hr]
      exact .inr ⟨hr, rfl⟩
  · by_cases hh : handle ∈ d.handles
    · rw [deregister_of_mem hh]
      exact .inl ⟨hh, rfl⟩
    · exact .inr ⟨hh, deregister_of_not_mem hh⟩

/-- What was given up can be registered again, under a handle of its own. -/
example :
    let r : Registration := ⟨"sql.Driver", "app.Driver", ⟨1⟩, "orders"⟩
    ((∅ : Directory).serveAll [.register r, .register r, .deregister 1, .register r]).2.entries =
      [⟨2, r⟩] := by
  decide

end Directory

end Tenancy.Plugin
