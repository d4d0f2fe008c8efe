import Mathlib.Data.List.Nodup
import Tenancy.Plugin.Directory

/-!
# Proofs/Plugin/Directory — what an owner has in a driver directory

A registration concerns the entries of one owner, at their end; giving up a handle concerns the
entry under it.  The entries of every other owner stay as they are and where they are.  So providers
registered one after another for one owner are there in the order of their first occurrence
(`Directory.registrations_registerAll`), and an owner can be withdrawn without anybody else noticing
(`Directory.ownedBy_withdraw_ne`).
-/

namespace Tenancy.Plugin.Directory

variable (d : Directory)

theorem mem_ownedBy {d : Directory} {e : Listing} {o : ContextId} :
    e ∈ d.ownedBy o ↔ e ∈ d.entries ∧ e.registration.owner = o := by
  simp [ownedBy]

/-- The entries of an owner come in the order of their handles. -/
theorem ownedBy_ordered (o : ContextId) :
    (d.ownedBy o).Pairwise fun e e' => e.handle < e'.handle :=
  d.ordered.filter _

/-! ## Registering -/

theorem ownedBy_accept (r : Registration) (o : ContextId) :
    (d.accept r).ownedBy o = d.ownedBy o ++ if r.owner = o then [⟨d.issued + 1, r⟩] else [] := by
  rw [ownedBy, accept, List.filter_append]
  split
  · rename_i h; rw [List.filter_cons_of_pos (by simpa using h)]; rfl
  · rename_i h; rw [List.filter_cons_of_neg (by simpa using h)]; rfl

theorem ownedBy_register_ne {r : Registration} {o : ContextId} (h : r.owner ≠ o) :
    (d.register r).2.ownedBy o = d.ownedBy o := by
  unfold register
  split
  · rfl
  · rw [ownedBy_accept, if_neg h, List.append_nil]

/-! ## Giving up -/

theorem entries_deregister (handle : Nat) :
    (d.deregister handle).2.entries = d.entries.filter fun e => e.handle != handle := by
  unfold deregister
  split
  · rfl
  · rename_i hnot
    -- an unknown handle is nobody's
    refine (List.filter_eq_self.2 fun e he => ?_).symm
    simp only [has, List.any_eq_true, not_exists, not_and, beq_iff_eq] at hnot
    simpa using hnot e he

theorem ownedBy_deregister (handle : Nat) (o : ContextId) :
    (d.deregister handle).2.ownedBy o = (d.ownedBy o).filter fun e => e.handle != handle := by
  simp only [ownedBy, entries_deregister, List.filter_filter, Bool.and_comm]

/-! ## Registering one after another -/

def registerAll (rs : List Registration) : Directory :=
  rs.foldl (fun d r => (d.register r).2) d

theorem registerAll_append (rs rs' : List Registration) :
    d.registerAll (rs ++ rs') = (d.registerAll rs).registerAll rs' :=
  List.foldl_append

/-- The new entries come after the old ones. -/
theorem entries_registerAll (rs : List Registration) :
    ∃ new, (d.registerAll rs).entries = d.entries ++ new ∧ ∀ e ∈ new, e.registration ∈ rs := by
  induction rs generalizing d with
  | nil => exact ⟨[], (List.append_nil _).symm, List.forall_mem_nil _⟩
  | cons r rs ih =>
    obtain ⟨new, hentries, hnew⟩ := ih (d.register r).2
    have hrest : ∀ e ∈ new, e.registration ∈ r :: rs := fun e he =>
      List.mem_cons_of_mem r (hnew e he)
    show ∃ new, ((d.register r).2.registerAll rs).entries = _ ∧ _
    rw [hentries, register]
    split
    · exact ⟨new, rfl, hrest⟩
    · refine ⟨⟨d.issued + 1, r⟩ :: new, by simp [accept], ?_⟩
      exact List.forall_mem_cons.2 ⟨List.mem_cons_self, hrest⟩

theorem ownedBy_registerAll_ne {rs : List Registration} {o : ContextId}
    (h : ∀ r ∈ rs, r.owner ≠ o) : (d.registerAll rs).ownedBy o = d.ownedBy o := by
  induction rs generalizing d with
  | nil => rfl
  | cons r rs ih =>
    obtain ⟨hr, hrs⟩ := List.forall_mem_cons.1 h
    exact (ih _ hrs).trans (d.ownedBy_register_ne hr)

/-- What an owner registered, in the order of its entries. -/
def registrations (o : ContextId) : List Registration :=
  (d.ownedBy o).map (·.registration)

variable {d} {o : ContextId} {name : String}

/-- A provider for a service, registered for an owner under a name. -/
def offer (o : ContextId) (name : String) (p : String × String) : Registration :=
  ⟨p.1, p.2, o, name⟩

theorem hasLike_offer {l : List (String × String)} (h : d.registrations o = l.map (offer o name))
    (p : String × String) : d.hasLike (offer o name p) = l.contains p := by
  have hmem : (∃ e ∈ d.entries, e.registration.owner = o ∧ e.registration.service = p.1 ∧
      e.registration.provider = p.2) ↔ p ∈ l := by
    constructor
    · rintro ⟨e, he, howner, hservice, hprovider⟩
      have hreg : e.registration ∈ d.registrations o :=
        List.mem_map_of_mem (mem_ownedBy.2 ⟨he, howner⟩)
      rw [h] at hreg
      obtain ⟨q, hq, hqe⟩ := List.mem_map.1 hreg
      obtain rfl : q = p :=
        Prod.ext ((congrArg Registration.service hqe).trans hservice)
          ((congrArg Registration.provider hqe).trans hprovider)
      exact hq
    · intro hp
      have hreg : offer o name p ∈ d.registrations o := h ▸ List.mem_map_of_mem hp
      obtain ⟨e, he, hep⟩ := List.mem_map.1 hreg
      obtain ⟨he, howner⟩ := mem_ownedBy.1 he
      exact ⟨e, he, howner, congrArg Registration.service hep, congrArg Registration.provider hep⟩
  rw [Bool.eq_iff_iff, List.contains_iff_mem, ← hmem, hasLike, List.any_eq_true]
  refine exists_congr fun e => and_congr_right fun _ => ?_
  rw [Bool.and_eq_true, Bool.and_eq_true, decide_eq_true_iff, beq_iff_eq, beq_iff_eq, and_assoc]
  rfl

/-- An offer is added at the end, unless it is there. -/
theorem registrations_register {l : List (String × String)}
    (h : d.registrations o = l.map (offer o name)) (p : String × String) :
    (d.register (offer o name p)).2.registrations o =
      (if l.contains p then l else l ++ [p]).map (offer o name) := by
  rw [register, hasLike_offer h]
  split
  · exact h
  · have haccept : (d.accept (offer o name p)).ownedBy o =
        d.ownedBy o ++ [⟨d.issued + 1, offer o name p⟩] := by
      rw [ownedBy_accept, offer, if_pos rfl]
    rw [registrations, haccept, List.map_append, List.map_append]
    exact congrArg (· ++ [offer o name p]) h

/-- **Offers are there in the order of their first occurrence.** -/
theorem registrations_registerAll {l : List (String × String)}
    (h : d.registrations o = l.map (offer o name)) (ps : List (String × String)) :
    (d.registerAll (ps.map (offer o name))).registrations o =
      (l ++ (ps.removeAll l).eraseDups).map (offer o name) := by
  induction ps generalizing d l with
  | nil => rw [List.nil_removeAll, List.eraseDups_nil, List.append_nil]; exact h
  | cons p ps ih =>
    have hstep := ih (registrations_register h p)
    refine hstep.trans (congrArg (List.map (offer o name)) ?_)
    rw [List.removeAll, List.removeAll]
    cases hp : l.contains p with
    | true =>
      rw [if_pos rfl, List.filter_cons_of_neg (by simpa using hp)]
    | false =>
      rw [if_neg (by decide), List.filter_cons_of_pos (by simpa using hp), List.eraseDups_cons,
        List.filter_filter, List.append_assoc, List.singleton_append]
      congr 3
      refine List.filter_congr fun q _ => ?_
      have hone : [p].contains q = (q == p) := by rw [List.contains_cons, List.contains_nil,
        Bool.or_false]
      rw [List.elem_eq_contains, List.elem_eq_contains, List.contains_append, hone, Bool.not_or,
        Bool.and_comm]

/-! ## Withdrawing an owner -/

variable (d)

def deregisterAll (handles : List Nat) : Directory :=
  handles.foldl (fun d h => (d.deregister h).2) d

theorem entries_deregisterAll (handles : List Nat) :
    (d.deregisterAll handles).entries = d.entries.filter fun e => !handles.contains e.handle := by
  induction handles generalizing d with
  | nil => exact (List.filter_eq_self.2 fun e _ => rfl).symm
  | cons h hs ih =>
    refine (ih _).trans ?_
    rw [entries_deregister, List.filter_filter]
    refine List.filter_congr fun e _ => ?_
    rw [List.contains_cons, Bool.not_or, Bool.and_comm]
    rfl

theorem issued_deregister (handle : Nat) : (d.deregister handle).2.issued = d.issued := by
  unfold deregister
  split <;> rfl

theorem issued_deregisterAll (handles : List Nat) :
    (d.deregisterAll handles).issued = d.issued := by
  induction handles generalizing d with
  | nil => rfl
  | cons h hs ih => exact (ih _).trans (d.issued_deregister h)

theorem eq_of_entries {d d' : Directory} (he : d.entries = d'.entries) (hi : d.issued = d'.issued) :
    d = d' := by
  cases d
  cases d'
  cases he
  cases hi
  rfl

theorem eq_of_handle {e e' : Listing} (he : e ∈ d.entries) (he' : e' ∈ d.entries)
    (h : e.handle = e'.handle) : e = e' := by
  have hnodup : (d.entries.map (·.handle)).Nodup :=
    List.pairwise_map.2 (d.ordered.imp fun hlt => Nat.ne_of_lt hlt)
  exact List.inj_on_of_nodup_map hnodup he he' h

/-- The directory with those entries only that a test holds of. -/
def keeping (p : Listing → Bool) : Directory where
  entries := d.entries.filter p
  issued := d.issued
  ordered := d.ordered.filter _
  le_issued := fun e he => d.le_issued e (List.mem_filter.1 he).1

theorem keeping_self (p : Listing → Bool) : (d.keeping p).keeping p = d.keeping p :=
  eq_of_entries (by simp [keeping]) rfl

theorem keeping_comm (p q : Listing → Bool) :
    (d.keeping p).keeping q = (d.keeping q).keeping p :=
  eq_of_entries (List.filter_comm _ _ _) rfl

/-- **Giving up the handles of some entries leaves the others**, in their order. -/
theorem deregisterAll_filter (p : Listing → Bool) :
    d.deregisterAll ((d.entries.filter p).map (·.handle)) = d.keeping fun e => !p e := by
  refine eq_of_entries ?_ (d.issued_deregisterAll _)
  rw [entries_deregisterAll]
  refine List.filter_congr fun e he => ?_
  have hgiven : e.handle ∈ (d.entries.filter p).map (·.handle) ↔ p e = true := by
    constructor
    · intro hmem
      obtain ⟨e', he', hhandle⟩ := List.mem_map.1 hmem
      obtain ⟨hentry, hp⟩ := List.mem_filter.1 he'
      rwa [d.eq_of_handle hentry he hhandle] at hp
    · intro hp
      exact List.mem_map_of_mem (List.mem_filter.2 ⟨he, hp⟩)
  rw [Bool.eq_iff_iff, Bool.not_eq_true', Bool.eq_false_iff, ne_eq, List.contains_iff_mem, hgiven,
    Bool.not_eq_true, Bool.not_eq_true']

/-- The directory without the entries of an owner. -/
def withdraw (o : ContextId) : Directory :=
  d.deregisterAll ((d.ownedBy o).map (·.handle))

/-- The entries of all others stay in their order. -/
theorem entries_withdraw (o : ContextId) :
    (d.withdraw o).entries = d.entries.filter fun e => e.registration.owner ≠ o := by
  rw [withdraw, ownedBy, deregisterAll_filter]
  exact List.filter_congr fun e _ => (decide_not).symm

theorem ownedBy_withdraw_ne {o o' : ContextId} (h : o' ≠ o) :
    (d.withdraw o).ownedBy o' = d.ownedBy o' := by
  rw [ownedBy, entries_withdraw, List.filter_filter]
  refine List.filter_congr fun e _ => ?_
  by_cases howner : e.registration.owner = o'
  · simp [howner, h]
  · simp [howner]

end Tenancy.Plugin.Directory
