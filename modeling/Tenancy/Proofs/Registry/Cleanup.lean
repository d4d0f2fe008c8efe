import Tenancy.Plugin.Faulty
import Tenancy.Proofs.Plugin.Directory
import Tenancy.Registry.Bridge

/-!
# Proofs/Registry/Cleanup — cleaning up where some handles are not given up

    after a clean-up  =  the entries of others, and those of the owner that are stuck

The bridge cleans up in a registry that may refuse to give up some handles
(`Plugin.Withholds`).  A refusal neither ends the clean-up nor touches anything else, so what stays
is told by the entries alone; nothing is left for a second clean-up, and clean-ups of different
owners do not get into each other's way (`Bridge.cleanup_keeping`).
-/

namespace Tenancy

open Plugin (Backend Directory Listing)
open Program (perform)

/-- **The registry keeps a directory, of which it gives up every handle but the stuck ones.** -/
structure Plugin.Withholds {σ : Type} [Backend σ] (stuck : Nat → Bool) (directory : σ → Directory) :
    Prop where
  entries : ∀ s, (Backend.entries s).1 = (directory s).entries ∧
    directory (Backend.entries s).2 = directory s
  deregister : ∀ handle s, stuck handle = false →
    (Backend.deregister handle s).1 = ((directory s).deregister handle).1 ∧
      directory (Backend.deregister handle s).2 = ((directory s).deregister handle).2
  refuse : ∀ handle s, stuck handle = true →
    (∃ fault, (Backend.deregister handle s).1 = .error fault) ∧
      directory (Backend.deregister handle s).2 = directory s

theorem Plugin.Faulty.withholds (stuck : Nat → Bool) :
    Withholds stuck (fun s : Faulty stuck => s.directory) where
  entries _ := ⟨rfl, rfl⟩
  deregister handle s h := by
    simp only [Backend.deregister, if_neg (Bool.eq_false_iff.1 h), and_self]
  refuse handle s h := by
    simp only [Backend.deregister, if_pos h, and_true]
    exact ⟨_, rfl⟩

namespace Bridge

variable {σ : Type} [Backend σ] {stuck : Nat → Bool} {directory : σ → Directory}

/-- A clean-up for an owner removes the entry: it is the owner's, and it is given up. -/
def removes (stuck : Nat → Bool) (owner : ContextId) (e : Listing) : Bool :=
  e.registration.owner = owner && !stuck e.handle

/-- The entries that are listed go in turn, each being there still when its turn comes. -/
theorem run_removeOwned (h : Plugin.Withholds stuck directory) (owner : ContextId) (name : String)
    {es : List Listing} (hordered : es.Pairwise fun e e' => e.handle < e'.handle) (w : World σ)
    (hes : ∀ e ∈ es, e ∈ (directory w.plugins).entries) :
    let gone := es.filter (removes stuck owner)
    ((removeOwned owner name es).run w).1 = gone.length ∧
      directory ((removeOwned owner name es).run w).2.plugins =
        (directory w.plugins).deregisterAll (gone.map (·.handle)) := by
  induction es generalizing w with
  | nil => exact ⟨rfl, rfl⟩
  | cons e es ih =>
    obtain ⟨hlt, hordered⟩ := List.pairwise_cons.1 hordered
    obtain ⟨he, hes⟩ := List.forall_mem_cons.1 hes
    by_cases howner : e.registration.owner = owner
    · rw [removeOwned, if_pos howner, Program.run_bind, Program.run_perform]
      dsimp only [World.perform]
      cases hstuck : stuck e.handle with
      | true =>
        obtain ⟨⟨fault, hanswer⟩, hafter⟩ := h.refuse e.handle w.plugins hstuck
        rw [hanswer, List.filter_cons_of_neg (by simp [removes, hstuck])]
        simp only [Program.run_bind]
        rw [← hafter] at hes ⊢
        exact ih hordered _ hes
      | false =>
        obtain ⟨hanswer, hafter⟩ := h.deregister e.handle w.plugins hstuck
        have hhas : (directory w.plugins).has e.handle = true :=
          List.any_eq_true.2 ⟨e, he, beq_self_eq_true _⟩
        rw [Directory.deregister, if_pos hhas] at hanswer
        rw [hanswer, List.filter_cons_of_pos (by simp [removes, hstuck, howner])]
        simp only [Program.run_bind]
        have hleft : ∀ e' ∈ es,
            e' ∈ (directory (Backend.deregister e.handle w.plugins).2).entries := by
          intro e' he'
          rw [hafter, Directory.entries_deregister]
          exact List.mem_filter.2 ⟨hes e' he', by simpa using Nat.ne_of_gt (hlt e' he')⟩
        refine ⟨congrArg (· + 1) (ih hordered _ hleft).1, (ih hordered _ hleft).2.trans ?_⟩
        exact congrArg (Directory.deregisterAll · _) hafter
    · rw [removeOwned, if_neg howner, List.filter_cons_of_neg (by simp [removes, howner])]
      exact ih hordered w hes

/-- A clean-up removes what is removed of all entries. -/
theorem run_cleanup (h : Plugin.Withholds stuck directory) (owner : ContextId) (name : String)
    (w : World σ) :
    ((cleanup owner name).run w).1 =
        ((directory w.plugins).entries.filter (removes stuck owner)).length ∧
      directory ((cleanup owner name).run w).2.plugins =
        (directory w.plugins).keeping fun e => !removes stuck owner e := by
  obtain ⟨hlisted, hsame⟩ := h.entries w.plugins
  rw [cleanup, Program.run_bind, Program.run_perform]
  dsimp only [World.perform]
  rw [hlisted, ← Directory.deregisterAll_filter, ← hsame]
  exact run_removeOwned h owner name (directory _).ordered _ fun e he => he

/-- What another owner has is still there. -/
theorem filter_keeping {owner other : ContextId} (hne : other ≠ owner) (d : Directory) :
    (d.keeping fun e => !removes stuck owner e).entries.filter (removes stuck other) =
      d.entries.filter (removes stuck other) := by
  rw [Directory.keeping, List.filter_filter]
  refine List.filter_congr fun e _ => ?_
  rw [removes, removes]
  by_cases howner : e.registration.owner = other
  · simp [howner, hne]
  · simp [howner]

/-- **A clean-up removes what the owner has and is given up**, and tells how much that is.  All
other entries stay as they are and in their order.  A second clean-up removes nothing and changes
nothing, and clean-ups of two owners remove the same in either order. -/
theorem cleanup_keeping (h : Plugin.Withholds stuck directory) (owner : ContextId) (name : String)
    (w : World σ) :
    let d := directory w.plugins
    let r := (cleanup owner name).run w
    (directory r.2.plugins = d.keeping (fun e => !removes stuck owner e) ∧
      r.1 = (d.entries.filter (removes stuck owner)).length) ∧
    (∀ name', let again := (cleanup owner name').run r.2
      again.1 = 0 ∧ directory again.2.plugins = directory r.2.plugins) ∧
    ∀ other name', other ≠ owner →
      let r' := (cleanup other name').run w
      let both := (cleanup other name').run r.2
      let both' := (cleanup owner name).run r'.2
      directory both.2.plugins = directory both'.2.plugins ∧ both.1 = r'.1 ∧ both'.1 = r.1 := by
  intro d r
  obtain ⟨hcount, hleft⟩ : r.1 = _ ∧ directory r.2.plugins = _ := run_cleanup h owner name w
  refine ⟨⟨hleft, hcount⟩, fun name' => ?_, fun other name' hne => ?_⟩
  · intro again
    obtain ⟨hcount', hleft'⟩ : again.1 = _ ∧ directory again.2.plugins = _ :=
      run_cleanup h owner name' r.2
    rw [hleft] at hcount' hleft' ⊢
    refine ⟨hcount'.trans (List.length_eq_zero_iff.2 ?_), hleft'.trans (d.keeping_self _)⟩
    simp [Directory.keeping]
  · intro r' both both'
    obtain ⟨hcount', hleft'⟩ : r'.1 = _ ∧ directory r'.2.plugins = _ := run_cleanup h other name' w
    obtain ⟨hboth, hleftBoth⟩ : both.1 = _ ∧ directory both.2.plugins = _ :=
      run_cleanup h other name' r.2
    obtain ⟨hboth', hleftBoth'⟩ : both'.1 = _ ∧ directory both'.2.plugins = _ :=
      run_cleanup h owner name r'.2
    rw [hleft] at hboth hleftBoth
    rw [hleft'] at hboth' hleftBoth'
    refine ⟨?_, ?_, ?_⟩
    · rw [hleftBoth, hleftBoth', Directory.keeping_comm]
    · rw [hboth, hcount', filter_keeping hne]
    · rw [hboth', hcount, filter_keeping (Ne.symm hne)]

/-- Of the owner's two entries one is stuck. -/
theorem cleanup_keeping_stuck :
    let registered : List Plugin.Registration := [⟨"sql.Driver", "a.A", ⟨1⟩, "orders"⟩,
      ⟨"sql.Driver", "b.B", ⟨1⟩, "orders"⟩, ⟨"sql.Driver", "a.A", ⟨2⟩, "stock"⟩]
    let w : World (Plugin.Faulty (· == 1)) := .initial ⟨(∅ : Directory).registerAll registered⟩
    let r := (cleanup ⟨1⟩ "orders").run w
    let r' := (cleanup ⟨2⟩ "stock").run r.2
    (r.2.plugins.directory.entries.map (·.handle) = [1, 3] ∧ r.1 = 1) ∧
      ((cleanup ⟨1⟩ "orders").run r.2).1 = 0 ∧ r'.1 = 1 := by
  intro registered w r r'
  obtain ⟨⟨hleft, hcount⟩, hagain, hother⟩ :=
    cleanup_keeping (Plugin.Faulty.withholds (· == 1)) ⟨1⟩ "orders" w
  refine ⟨⟨?_, hcount.trans (by decide +kernel)⟩, (hagain "orders").1, ?_⟩
  · rw [show r.2.plugins.directory = _ from hleft]
    decide +kernel
  · rw [show r'.1 = _ from (hother ⟨2⟩ "stock" (by decide)).2.1]
    decide +kernel

end Bridge

end Tenancy
