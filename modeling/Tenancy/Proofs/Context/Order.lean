import Mathlib.Data.List.Forall2
import Tenancy.Proofs.Context.View

/-!
# Proofs/Context/Order — look-ups follow the order of their chain

    seq c = c :: seq (delegate)     where c asks itself first
    seq c = seq (delegate) ++ [c]   where c asks its delegate first

A chain of isolated contexts, with or without a host at its end, has one sequence of holdings
(`Chain.sequence`).  The look-up of all matches gives, in this sequence, what every holder of the
key has; the look-up of one gives the first of it, and may answer where the other fails, since it
stops at the first holder.  Both find nothing in the same chains (`Delegation.lookup_follows`).
-/

namespace Tenancy

/-- An artifact bears the key and the origin that it was materialized under. -/
theorem Materializer.ofEntry_ok {m : Materializer} {e : Entry} {key : ArtifactKey}
    {origin : Origin} {a : Artifact} (h : m.ofEntry e key origin = .ok a) :
    a.key = key ∧ a.origin = origin := by
  unfold ofEntry materialize at h
  split at h
  · split at h
    · cases h; exact ⟨rfl, rfl⟩
    · cases h
  · cases h

/-- What cannot be materialized is corrupt, and in particular not missing. -/
theorem Materializer.ofEntry_error {m : Materializer} {e : Entry} {key : ArtifactKey}
    {origin : Origin} {err : NamespaceError} (h : m.ofEntry e key origin = .error err) :
    ∃ k fault, err = .corruptArtifact k fault := by
  unfold ofEntry materialize at h
  split at h
  · split at h
    · cases h
    · cases h; exact ⟨_, _, rfl⟩
  · cases h; exact ⟨_, _, rfl⟩

/-! ## What one holding has -/

namespace Holding

variable {h : Holding} {key : ArtifactKey} {a : Artifact}

/-- The entry under the key unpacks and materializes to the artifact. -/
def Gives (h : Holding) (key : ArtifactKey) (a : Artifact) : Prop :=
  ∃ e, h.entries.get? key = some e ∧ h.materializer.ofEntry e key h.origin = .ok a

theorem Gives.origin_eq (ha : h.Gives key a) : a.origin = h.origin := by
  obtain ⟨e, -, he⟩ := ha
  exact (Materializer.ofEntry_ok he).2

theorem Gives.context_eq (ha : h.Gives key a) : a.origin.context = h.id :=
  congrArg Origin.context ha.origin_eq

theorem Gives.contains (ha : h.Gives key a) : h.entries.contains key = true := by
  obtain ⟨e, he, -⟩ := ha
  rw [Table.contains, he]
  rfl

theorem gives_of_find (hf : h.find key = .ok (some a)) : h.Gives key a := by
  unfold find at hf
  split at hf
  · cases hf
  · rename_i e he
    split at hf
    · rename_i a' ha'
      cases hf
      exact ⟨e, he, ha'⟩
    · cases hf

theorem contains_of_find (hf : h.find key = .ok none) : h.entries.contains key = false := by
  unfold find at hf
  split at hf
  · rename_i he
    rw [Table.contains, he]
    rfl
  · split at hf <;> cases hf

theorem find_error {err : NamespaceError} (hf : h.find key = .error err) :
    err.isNotFound = false := by
  unfold find at hf
  split at hf
  · cases hf
  · split at hf
    · cases hf
    · rename_i he
      cases hf
      obtain ⟨k, fault, rfl⟩ := Materializer.ofEntry_error he
      rfl

/-- What is wrong with an entry is not that a context is out of use. -/
theorem not_shut_of_find {e : NamespaceError} (hf : h.find key = .error e) :
    e.isShutdown = false := by
  unfold find at hf
  split at hf
  · cases hf
  · split at hf
    · cases hf
    · rename_i he
      cases hf
      obtain ⟨k, fault, rfl⟩ := Materializer.ofEntry_error he
      rfl

/-- What is found in a holding, as a list: one artifact if it has the key, none otherwise. -/
theorem forall₂_of_find {found : Option Artifact} (hf : h.find key = .ok found) :
    List.Forall₂ (fun h a => h.Gives key a) ([h].filter fun h => h.entries.contains key)
      found.toList := by
  cases found with
  | none =>
    rw [List.filter_cons_of_neg (by simp [contains_of_find hf])]
    exact .nil
  | some a =>
    have ha := gives_of_find hf
    rw [List.filter_cons_of_pos (by simpa using ha.contains)]
    exact .cons ha .nil

end Holding

/-! ## The sequence of a chain -/

namespace Chain

theorem otherwise_eq_none {x y : Found} :
    otherwise x y = .ok none ↔ x = .ok none ∧ y = .ok none := by
  rcases x with e | _ | a <;> simp [otherwise]

theorem otherwise_eq_some {x y : Found} {a : Artifact} :
    otherwise x y = .ok (some a) ↔ x = .ok (some a) ∨ x = .ok none ∧ y = .ok (some a) := by
  rcases x with e | _ | b <;> simp [otherwise]

theorem otherwise_eq_error {x y : Found} {e : NamespaceError} :
    otherwise x y = .error e ↔ x = .error e ∨ x = .ok none ∧ y = .error e := by
  rcases x with e' | _ | a <;> simp [otherwise]

/-- The holdings of a chain in the order in which they are asked. -/
def sequence : List Layer → List Holding
  | [] => []
  | .host own :: _ => [own]
  | .resolver .. :: _ => []
  | .context own .childFirst :: behind => own :: sequence behind
  | .context own .parentFirst :: behind => sequence behind ++ [own]

/-- Those of them that have the key. -/
def holders (key : ArtifactKey) (chain : List Layer) : List Holding :=
  (sequence chain).filter fun h => h.entries.contains key

end Chain

namespace View

variable {v : View} {key : ArtifactKey} {stand : Option Holding → Found}
  {standAll : Option Holding → Except NamespaceError (List Artifact)}

/-- **The matches are those of the holders, in sequence.** -/
theorem every_ok {chain : List Layer} (hp : ∀ l ∈ chain, l.isPlain) {found : List Artifact}
    (hf : v.every standAll key chain = .ok found) :
    List.Forall₂ (fun h a => h.Gives key a) (Chain.holders key chain) found := by
  induction chain generalizing found with
  | nil => cases hf; exact .nil
  | cons l behind ih =>
    obtain ⟨hl, hb⟩ := List.forall_mem_cons.1 hp
    cases l with
    | resolver id host => exact hl.elim
    | host own =>
      obtain ⟨mine, hown, rfl⟩ := every_host_ok hf
      exact Holding.forall₂_of_find hown
    | context own order =>
      obtain ⟨mine, inherited, hown, hrest, rfl⟩ := every_context_ok hf
      have h1 := Holding.forall₂_of_find hown
      have h2 := ih hb hrest
      cases order with
      | childFirst =>
        rw [Chain.holders, Chain.sequence, ← List.singleton_append, List.filter_append]
        exact List.rel_append h1 h2
      | parentFirst =>
        rw [Chain.holders, Chain.sequence, List.filter_append]
        exact List.rel_append h2 h1

/-- Where one look-up misses the other finds nothing. -/
theorem every_of_first_none {chain : List Layer} (hp : ∀ l ∈ chain, l.isPlain)
    (hf : v.first stand key chain = .ok none) : v.every standAll key chain = .ok [] := by
  induction chain with
  | nil => rfl
  | cons l behind ih =>
    obtain ⟨hl, hb⟩ := List.forall_mem_cons.1 hp
    cases l with
    | resolver id host => exact hl.elim
    | host own =>
      simp only [first] at hf
      simp only [every, hf]
      rfl
    | context own order =>
      simp only [first] at hf
      split at hf
      · rename_i ho
        have hboth : own.find key = .ok none ∧ v.first stand key behind = .ok none := by
          cases order with
          | childFirst => exact Chain.otherwise_eq_none.1 hf
          | parentFirst => exact (Chain.otherwise_eq_none.1 hf).symm
        simp only [every, if_pos ho, hboth.1, ih hb hboth.2]
        cases order <;> rfl
      · cases hf

/-- Where all matches are found, the one that is found alone is the first of them. -/
theorem first_of_every {chain : List Layer} (hp : ∀ l ∈ chain, l.isPlain) {found : List Artifact}
    (hf : v.every standAll key chain = .ok found) :
    v.first stand key chain = .ok found.head? := by
  induction chain generalizing found with
  | nil => cases hf; rfl
  | cons l behind ih =>
    obtain ⟨hl, hb⟩ := List.forall_mem_cons.1 hp
    cases l with
    | resolver id host => exact hl.elim
    | host own =>
      simp only [every] at hf
      rcases hown : own.find key with e | _ | a <;> rw [hown] at hf <;> cases hf <;>
        simp only [first, hown] <;> rfl
    | context own order =>
      simp only [every] at hf
      split at hf
      · rename_i ho
        cases hown : own.find key with
        | error e => rw [hown] at hf; cases hf
        | ok mine =>
          cases hrest : v.every standAll key behind with
          | error e => rw [hown, hrest] at hf; cases hf
          | ok inherited =>
            rw [hown, hrest] at hf
            cases hf
            simp only [first, if_pos ho, hown, ih hb hrest]
            cases order <;> cases mine <;> cases inherited <;> rfl
      · cases hf

/-- **The match is that of the first holder**, whatever the holders after it have. -/
theorem first_ok {chain : List Layer} (hp : ∀ l ∈ chain, l.isPlain) {a : Artifact}
    (hf : v.first stand key chain = .ok (some a)) :
    ∃ h rest, Chain.holders key chain = h :: rest ∧ h.Gives key a := by
  induction chain with
  | nil => cases hf
  | cons l behind ih =>
    obtain ⟨hl, hb⟩ := List.forall_mem_cons.1 hp
    cases l with
    | resolver id host => exact hl.elim
    | host own =>
      have ha := Holding.gives_of_find hf
      exact ⟨own, [], List.filter_cons_of_pos (by simpa using ha.contains), ha⟩
    | context own order =>
      simp only [first] at hf
      split at hf
      · cases order with
        | childFirst =>
          rcases Chain.otherwise_eq_some.1 hf with hown | ⟨hown, hrest⟩
          · have ha := Holding.gives_of_find hown
            exact ⟨own, _, List.filter_cons_of_pos (by simpa using ha.contains), ha⟩
          · obtain ⟨h, rest, hh, ha⟩ := ih hb hrest
            refine ⟨h, rest, ?_, ha⟩
            rw [Chain.holders, Chain.sequence,
              List.filter_cons_of_neg (by simp [Holding.contains_of_find hown])]
            exact hh
        | parentFirst =>
          rcases Chain.otherwise_eq_some.1 hf with hrest | ⟨hrest, hown⟩
          · obtain ⟨h, rest, hh, ha⟩ := ih hb hrest
            refine ⟨h, rest ++ [own].filter fun h => h.entries.contains key, ?_, ha⟩
            rw [Chain.holders, Chain.sequence, List.filter_append, ← List.cons_append, ← hh]
            rfl
          · have ha := Holding.gives_of_find hown
            -- nothing behind holds the key, since the look-up there went all the way
            have hevery : v.every (fun _ => .ok []) key behind = .ok [] :=
              every_of_first_none hb hrest
            have hnone : Chain.holders key behind = [] :=
              List.forall₂_nil_right_iff.1 (every_ok hb hevery)
            refine ⟨own, [], ?_, ha⟩
            rw [Chain.holders, Chain.sequence, List.filter_append]
            rw [Chain.holders] at hnone
            rw [hnone, List.filter_cons_of_pos (by simpa using ha.contains)]
            rfl
      · cases hf

/-- Whatever else goes wrong along a chain, it is no miss. -/
theorem first_error {chain : List Layer} (hp : ∀ l ∈ chain, l.isPlain) {e : NamespaceError}
    (hf : v.first stand key chain = .error e) : e.isNotFound = false := by
  induction chain with
  | nil => cases hf
  | cons l behind ih =>
    obtain ⟨hl, hb⟩ := List.forall_mem_cons.1 hp
    cases l with
    | resolver id host => exact hl.elim
    | host own => exact Holding.find_error hf
    | context own order =>
      simp only [first] at hf
      split at hf
      · cases order with
        | childFirst =>
          rcases Chain.otherwise_eq_error.1 hf with hown | ⟨-, hrest⟩
          · exact Holding.find_error hown
          · exact ih hb hrest
        | parentFirst =>
          rcases Chain.otherwise_eq_error.1 hf with hrest | ⟨-, hown⟩
          · exact ih hb hrest
          · exact Holding.find_error hown
      · cases hf; rfl

end View

/-! ## Hits and misses -/

namespace Source

variable {key : ArtifactKey} {id : ContextId} {found : Found}

theorem orNotFound_ok {a : Artifact} (h : orNotFound key id found = .ok a) :
    found = .ok (some a) := by
  rcases found with e | _ | a'
  · cases h
  · cases h
  · cases h; rfl

/-- A miss comes of an empty answer, if no failure passes for one. -/
theorem orNotFound_miss {e : NamespaceError} (h : orNotFound key id found = .error e)
    (hn : e.isNotFound = true) (hf : ∀ e', found = .error e' → e'.isNotFound = false) :
    found = .ok none ∧ e = .artifactNotFound key id := by
  rcases found with e' | _ | a
  · cases h
    rw [hf e rfl] at hn
    cases hn
  · cases h
    exact ⟨rfl, rfl⟩
  · cases h

end Source

/-! ## Delegations -/

/-- Isolated contexts that delegate each to the next, and perhaps a host at the end. -/
structure Delegation where
  own : Holding
  order : ResolutionOrder
  contexts : List (Holding × ResolutionOrder)
  host : Option Holding

namespace Delegation

/-- The first context, with the others and the host behind it. -/
def source (d : Delegation) : Source where
  head := .context d.own d.order
  behind := d.contexts.map (fun c => .context c.1 c.2) ++ d.host.toList.map .host

theorem isPlain_layers (d : Delegation) : ∀ l ∈ d.source.layers, l.isPlain := by
  intro l hl
  rcases List.mem_cons.1 hl with rfl | hl
  · exact trivial
  · rcases List.mem_append.1 hl with hl | hl
    · obtain ⟨c, -, rfl⟩ := List.mem_map.1 hl
      exact trivial
    · obtain ⟨h, -, rfl⟩ := List.mem_map.1 hl
      exact trivial

theorem isPlain_reach (d : Delegation) (v : View) : ∀ l ∈ v.reach d.source.layers, l.isPlain :=
  fun l hl => d.isPlain_layers l (View.mem_of_mem_reach hl)

variable {σ : Type} [Plugin.Backend σ]

/-- **Look-ups follow the order of the chain.**  The chain goes as far as its delegates are held;
its contexts may be in any state and its entries unusable.  All matches, if they can be had, are
those of the holders in sequence, each defined by its holder.  One match is that of the first
holder.  Where all matches can be had, the one match is the first of them, or a miss if there is
none.  A miss of the one is an empty answer of the other, and names the context that was asked. -/
theorem lookup_follows (d : Delegation) (active : Option String) (key : ArtifactKey)
    (w : World σ) :
    let one := ((d.source.lookup active key).run w).1
    let all := ((d.source.lookupAll active key).run w).1
    let holders := Chain.holders key (w.view.reach d.source.layers)
    (∀ found, all = .ok found →
      List.Forall₂ (fun h a => h.Gives key a ∧ a.origin.context = h.id) holders found) ∧
    (∀ a, one = .ok a → ∃ h rest, holders = h :: rest ∧ h.Gives key a) ∧
    (∀ found, all = .ok found →
      one = match found with
        | [] => .error (.artifactNotFound key d.own.id)
        | a :: _ => .ok a) ∧
    (all = .ok [] ↔ ∃ e, one = .error e ∧ e.isNotFound = true) ∧
    ∀ e, one = .error e → e.isNotFound = true → e = .artifactNotFound key d.own.id := by
  intro one all holders
  have hp := d.isPlain_reach w.view
  have hone : one = Source.orNotFound key d.own.id
      (w.view.first (w.view.resolved active key) key (w.view.reach d.source.layers)) :=
    (Source.reads_lookup active key (by simp [source]) σ w rfl).1
  have hall : all = w.view.every (w.view.resolvedAll active key) key
      (w.view.reach d.source.layers) :=
    (Source.reads_lookupAll active d.source key σ w rfl).1
  have hhead : ∀ found, all = .ok found →
      one = match found with
        | [] => .error (.artifactNotFound key d.own.id)
        | a :: _ => .ok a := by
    intro found hf
    rw [hone, View.first_of_every hp (hall.symm.trans hf)]
    cases found <;> rfl
  have hmiss : ∀ e, one = .error e → e.isNotFound = true →
      w.view.first (w.view.resolved active key) key (w.view.reach d.source.layers) = .ok none ∧
        e = .artifactNotFound key d.own.id := fun e he hn =>
    Source.orNotFound_miss (hone.symm.trans he) hn fun e' he' => View.first_error hp he'
  refine ⟨fun found hf => ?_, fun a ha => ?_, hhead, ⟨fun hf => ⟨_, hhead [] hf, rfl⟩, ?_⟩,
    fun e he hn => (hmiss e he hn).2⟩
  · exact (View.every_ok hp (hall.symm.trans hf)).imp fun h a ha => ⟨ha, ha.context_eq⟩
  · exact View.first_ok hp (Source.orNotFound_ok (hone.symm.trans ha))
  · rintro ⟨e, he, hn⟩
    rw [hall]
    exact View.every_of_first_none hp (hmiss e he hn).1

end Delegation

end Tenancy
