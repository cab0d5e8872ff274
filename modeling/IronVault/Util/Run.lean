import Mathlib.Algebra.Order.Ring.Int

/-!
This module contains runs of a labelled transition system. A run keeps every transition it took,
so properties of a whole history can be stated over the list of its transitions.
-/

structure Transition (σ α : Type) where
  pre : σ
  action : α
  post : σ

variable {σ α : Type} {step : σ → α → σ → Prop}

/--
`Run step s tr s'` means that the transitions `tr` lead from `s` to `s'`.
-/
inductive Run (step : σ → α → σ → Prop) (s : σ) : List (Transition σ α) → σ → Prop where
  | nil : Run step s [] s
  | snoc {tr : List (Transition σ α)} {t u : σ} {a : α} (run : Run step s tr t)
      (hstep : step t a u) : Run step s (tr ++ [⟨t, a, u⟩]) u

namespace Run

theorem invariant {P : σ → Prop} {s s' : σ} {tr : List (Transition σ α)} (run : Run step s tr s')
    (hs : P s) (hstep : ∀ t a u, ⟨t, a, u⟩ ∈ tr → step t a u → P t → P u) : P s' := by
  induction run with
  | nil => exact hs
  | snoc _ h ih =>
    apply hstep _ _ _ (by simp) h
    apply ih
    intro t a u hmem
    exact hstep t a u (List.mem_append_left _ hmem)

theorem trans {s t u : σ} {tr₁ tr₂ : List (Transition σ α)} (run₁ : Run step s tr₁ t)
    (run₂ : Run step t tr₂ u) : Run step s (tr₁ ++ tr₂) u := by
  induction run₂ with
  | nil => simpa using run₁
  | snoc _ h ih =>
    rw [← List.append_assoc]
    exact .snoc ih h

theorem of_append {s u : σ} {tr₁ tr₂ : List (Transition σ α)} (run : Run step s (tr₁ ++ tr₂) u)
    : ∃ t, Run step s tr₁ t ∧ Run step t tr₂ u := by
  generalize htr : tr₁ ++ tr₂ = tr at run
  induction run generalizing tr₂ with
  | nil =>
    rw [List.append_eq_nil_iff] at htr
    obtain ⟨rfl, rfl⟩ := htr
    exact ⟨_, .nil, .nil⟩
  | snoc run h ih =>
    rcases List.eq_nil_or_concat tr₂ with rfl | ⟨tr₂, last, rfl⟩
    . rw [List.append_nil] at htr
      subst htr
      exact ⟨_, .snoc run h, .nil⟩
    . rw [List.concat_eq_append] at htr ⊢
      rw [← List.append_assoc] at htr
      obtain ⟨htr, hlast⟩ := List.append_inj' htr rfl
      obtain ⟨t, hl, hr⟩ := ih htr
      rw [List.cons.injEq] at hlast
      rw [hlast.1]
      exact ⟨t, hl, .snoc hr h⟩

theorem of_snoc {s u : σ} {tr : List (Transition σ α)} {x : Transition σ α}
    (run : Run step s (tr ++ [x]) u) : Run step s tr x.pre ∧ step x.pre x.action x.post ∧ x.post = u := by
  generalize htr : tr ++ [x] = tr' at run
  cases run with
  | nil => simp at htr
  | snoc run h =>
    obtain ⟨rfl, hx⟩ := List.append_inj' htr rfl
    rw [List.cons.injEq] at hx
    obtain ⟨rfl, -⟩ := hx
    exact ⟨run, h, rfl⟩

theorem of_cons_append {s u : σ} {tr₁ tr₂ : List (Transition σ α)} {x : Transition σ α}
    (run : Run step s (tr₁ ++ x :: tr₂) u)
    : Run step s tr₁ x.pre ∧ step x.pre x.action x.post ∧ Run step x.post tr₂ u := by
  rw [List.append_cons] at run
  obtain ⟨t, hl, hr⟩ := of_append run
  obtain ⟨hpre, hx, rfl⟩ := of_snoc hl
  exact ⟨hpre, hx, hr⟩

theorem of_mem {s u : σ} {tr : List (Transition σ α)} {x : Transition σ α} (run : Run step s tr u)
    (hx : x ∈ tr) : ∃ tr₁, Run step s tr₁ x.pre ∧ step x.pre x.action x.post := by
  obtain ⟨tr₁, tr₂, rfl⟩ := List.append_of_mem hx
  obtain ⟨hpre, hstep, -⟩ := of_cons_append run
  exact ⟨tr₁, hpre, hstep⟩

theorem map {σ' α' : Type} {step' : σ' → α' → σ' → Prop} {f : σ → σ'} {g : Transition σ α → α'}
    {s s' : σ} {tr : List (Transition σ α)} (run : Run step s tr s')
    (hsim : ∀ t ∈ tr, step t.pre t.action t.post → step' (f t.pre) (g t) (f t.post)) :
    Run step' (f s) (tr.map fun t => ⟨f t.pre, g t, f t.post⟩) (f s') := by
  induction run with
  | nil => exact .nil
  | snoc run hstep ih =>
    rw [List.map_append]
    apply Run.snoc
    . apply ih
      intro t ht
      exact hsim t (List.mem_append_left _ ht)
    . exact hsim _ (by simp) hstep

theorem foldl_filterMap {ν ε : Type} {view : σ → ν} {out : Transition σ α → Option ε}
    {replay : ν → ε → ν} {s s' : σ} {tr : List (Transition σ α)} (run : Run step s tr s')
    (hstep : ∀ tr t a u, Run step s tr t → step t a u →
      view u = (out ⟨t, a, u⟩).toList.foldl replay (view t)) :
    view s' = (tr.filterMap out).foldl replay (view s) := by
  induction run with
  | nil => rfl
  | @snoc tr t u a run h ih =>
    rw [hstep tr t a u run h, ih, List.filterMap_append, List.foldl_append]
    cases hout : out ⟨t, a, u⟩ <;> simp [hout]

end Run
