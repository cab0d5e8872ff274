import Mathlib.Data.List.Basic
import Mathlib.Data.List.Perm.Basic

/-!
This module contains schedules: a batch of jobs that is run one after the other. A run may leave the
state as it is, for a job that fails. Where jobs that are independent of each other do not disturb each
other, the order of a batch of independent jobs does not matter.
-/

variable {σ α ρ : Type}

structure Schedulable (run : σ → α → σ) (outcome : σ → α → ρ) (Inv : σ → Prop) (Ok : α → Prop)
    (Independent : α → α → Prop) : Prop where
  inv {s : σ} {x : α} : Inv s → Ok x → Inv (run s x)
  symm {x y : α} : Independent x y → Independent y x
  outcome_eq {s : σ} {x y : α} : Inv s → Ok x → Ok y → Independent x y →
    outcome (run s x) y = outcome s y
  comm {s : σ} {x y : α} : Inv s → Ok x → Ok y → Independent x y →
    run (run s x) y = run (run s y) x

namespace Schedulable

variable {run : σ → α → σ} {outcome : σ → α → ρ} {Inv : σ → Prop} {Ok : α → Prop}
variable {Independent : α → α → Prop}

theorem foldl_perm (h : Schedulable run outcome Inv Ok Independent) {xs ys : List α}
    (hperm : xs.Perm ys) (hok : ∀ x ∈ xs, Ok x) (hxs : xs.Pairwise Independent) {s : σ}
    (hs : Inv s) : xs.foldl run s = ys.foldl run s := by
  induction hperm generalizing s with
  | nil => rfl
  | cons x _ ih =>
    rw [List.forall_mem_cons] at hok
    exact ih hok.2 hxs.of_cons (h.inv hs hok.1)
  | swap x y xs =>
    simp only [List.forall_mem_cons] at hok
    have hyx : Independent y x := List.rel_of_pairwise_cons hxs List.mem_cons_self
    rw [List.foldl_cons, List.foldl_cons, List.foldl_cons, List.foldl_cons,
      h.comm hs hok.1 hok.2.1 hyx]
  | trans hxy _ ih₁ ih₂ =>
    have hys := (hxy.pairwise_iff h.symm).mp hxs
    rw [ih₁ hok hxs hs]
    apply ih₂ _ hys hs
    intro y hy
    exact hok y (hxy.mem_iff.mpr hy)

theorem outcome_foldl (h : Schedulable run outcome Inv Ok Independent) {xs : List α} {y : α}
    (hxs : ∀ x ∈ xs, Ok x ∧ Independent x y) (hy : Ok y) {s : σ} (hs : Inv s) :
    outcome (xs.foldl run s) y = outcome s y := by
  induction xs generalizing s with
  | nil => rfl
  | cons x xs ih =>
    rw [List.forall_mem_cons] at hxs
    obtain ⟨⟨hx, hxy⟩, hxs⟩ := hxs
    rw [List.foldl_cons, ih hxs (h.inv hs hx), h.outcome_eq hs hx hy hxy]

end Schedulable
