import Mathlib.Algebra.Order.Ring.Int

/-!
This module contains a counter with a log that does not tell everything: an entry says that the
counter was set to a value or that an amount was added, but not whether the counter was thrown away
before the amount was added. Two counters with the same log are then equal exactly if they were reset
at the same place for the last time.
-/

namespace Counter

inductive Entry where
  | set (value : Nat)
  | add (amount : Nat)
  | other

/--
`Reads log count age` means that `count` can be what a counter with this log, newest entry first,
shows when its last reset is `age` entries old. A counter shows nothing before it is set.
-/
inductive Reads : List Entry → Option Nat → Nat → Prop where
  | nil : Reads [] none 0
  | set {log : List Entry} {count : Option Nat} {age : Nat} (value : Nat) (h : Reads log count age) :
      Reads (.set value :: log) (some value) 0
  | add {log : List Entry} {count : Option Nat} {age amount : Nat} (hpos : 0 < amount)
      (h : Reads log count age) : Reads (.add amount :: log) (count.map (· + amount)) (age + 1)
  | discard {log : List Entry} {count age amount : Nat} (hpos : 0 < amount) (hcount : count ≠ 0)
      (h : Reads log (some count) age) : Reads (.add amount :: log) (some amount) 0
  | other {log : List Entry} {count : Option Nat} {age : Nat} (h : Reads log count age) :
      Reads (.other :: log) count (age + 1)

structure Ordered (c₁ a₁ c₂ a₂ : Nat) : Prop where
  eq : a₁ = a₂ → c₁ = c₂
  lt : a₁ < a₂ → 0 < c₁ ∧ c₁ < c₂
  gt : a₂ < a₁ → 0 < c₂ ∧ c₂ < c₁

theorem Ordered.symm {c₁ a₁ c₂ a₂ : Nat} (h : Ordered c₁ a₁ c₂ a₂) : Ordered c₂ a₂ c₁ a₁ :=
  ⟨fun heq => (h.eq heq.symm).symm, h.gt, h.lt⟩

theorem Ordered.add {c₁ a₁ c₂ a₂ : Nat} (h : Ordered c₁ a₁ c₂ a₂) (amount : Nat) :
    Ordered (c₁ + amount) (a₁ + 1) (c₂ + amount) (a₂ + 1) := by
  obtain ⟨heq, hlt, hgt⟩ := h
  constructor
  . intro h
    rw [heq (by omega)]
  . intro h
    have := hlt (by omega)
    omega
  . intro h
    have := hgt (by omega)
    omega

theorem Ordered.discard {c₁ a₁ c₂ a₂ amount : Nat} (h : Ordered c₁ a₁ c₂ a₂) (hpos : 0 < amount)
    (hcount : c₁ ≠ 0) : Ordered amount 0 (c₂ + amount) (a₂ + 1) := by
  -- The other counter is not zero either, whichever of the two was reset later
  have hcount₂ : 0 < c₂ := by
    rcases Nat.lt_trichotomy a₁ a₂ with ha | ha | ha
    . have := h.lt ha
      omega
    . rw [← h.eq ha]
      omega
    . exact (h.gt ha).1
  constructor <;> omega

inductive Related : Option Nat → Nat → Option Nat → Nat → Prop where
  | unset (age : Nat) : Related none age none age
  | ordered {c₁ a₁ c₂ a₂ : Nat} (h : Ordered c₁ a₁ c₂ a₂) : Related (some c₁) a₁ (some c₂) a₂

theorem Reads.related {log : List Entry} {c₁ c₂ : Option Nat} {a₁ a₂ : Nat} (h₁ : Reads log c₁ a₁)
    (h₂ : Reads log c₂ a₂) : Related c₁ a₁ c₂ a₂ := by
  induction h₁ generalizing c₂ a₂ with
  | nil =>
    cases h₂
    exact .unset 0
  | set value _ _ =>
    cases h₂
    exact .ordered ⟨fun _ => rfl, by omega, by omega⟩
  | other _ ih =>
    cases h₂ with
    | other h₂ =>
      cases ih h₂ with
      | unset age => exact .unset _
      | ordered h => exact .ordered (h.add 0)
  | @add log count age amount hpos _ ih =>
    cases h₂ with
    | add _ h₂ =>
      cases ih h₂ with
      | unset age => exact .unset _
      | ordered h => exact .ordered (h.add amount)
    | discard _ hcount h₂ =>
      cases ih h₂ with
      | ordered h => exact .ordered (h.symm.discard hpos hcount).symm
  | discard hpos hcount _ ih =>
    cases h₂ with
    | add _ h₂ =>
      cases ih h₂ with
      | ordered h => exact .ordered (h.discard hpos hcount)
    | discard _ _ h₂ => exact .ordered ⟨fun _ => rfl, by omega, by omega⟩

theorem Reads.count_eq_iff {log : List Entry} {c₁ c₂ : Option Nat} {a₁ a₂ : Nat}
    (h₁ : Reads log c₁ a₁) (h₂ : Reads log c₂ a₂) : c₁ = c₂ ↔ a₁ = a₂ := by
  cases h₁.related h₂ with
  | unset age => simp
  | ordered h =>
    rw [Option.some.injEq]
    constructor
    . intro heq
      rcases Nat.lt_trichotomy a₁ a₂ with ha | ha | ha
      . have := h.lt ha
        omega
      . exact ha
      . have := h.gt ha
        omega
    . exact h.eq

end Counter
