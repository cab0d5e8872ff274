import Mathlib.Algebra.Order.Ring.Int

/-!
This module contains the pieces that every fallible, fixed-width handler is written with: guards in
`Except` together with the lemmas that peel a successful run apart, writes to partial maps, and
checked 64-bit arithmetic.
-/

section Guard

variable {ε α β : Type}

def require (c : Prop) [Decidable c] (e : ε) : Except ε Unit :=
  if c then .ok () else .error e

def fetch (o : Option α) (e : ε) : Except ε α :=
  match o with
  | some a => .ok a
  | none => .error e

@[simp]
theorem require_eq_ok {c : Prop} [Decidable c] {e : ε} {u : Unit} :
    require c e = .ok u ↔ c := by
  unfold require
  split <;> simp_all

@[simp]
theorem fetch_eq_ok {o : Option α} {e : ε} {a : α} : fetch o e = .ok a ↔ o = some a := by
  cases o <;> simp [fetch]

@[simp]
theorem Except.bind_eq_ok_iff {x : Except ε α} {f : α → Except ε β} {b : β} :
    (x >>= f) = .ok b ↔ ∃ a, x = .ok a ∧ f a = .ok b := by
  cases x <;> simp [bind, Except.bind]

@[simp]
theorem Except.pure_eq_ok_iff {a b : α} : (pure a : Except ε α) = .ok b ↔ a = b := by
  simp [pure, Except.pure]

@[simp]
theorem Except.map_eq_ok_iff {x : Except ε α} {f : α → β} {b : β} :
    f <$> x = .ok b ↔ ∃ a, x = .ok a ∧ f a = b := by
  cases x <;> simp [Functor.map, Except.map]

theorem require_eq_error {c : Prop} [Decidable c] {e e' : ε} :
    require c e = .error e' ↔ ¬ c ∧ e = e' := by
  unfold require
  split <;> simp_all

theorem fetch_eq_error {o : Option α} {e e' : ε} :
    fetch o e = .error e' ↔ o = none ∧ e = e' := by
  cases o <;> simp [fetch]

theorem Except.bind_eq_error_iff {x : Except ε α} {f : α → Except ε β} {e : ε} :
    (x >>= f) = .error e ↔ x = .error e ∨ ∃ a, x = .ok a ∧ f a = .error e := by
  cases x <;> simp [bind, Except.bind]

theorem Except.pure_eq_error_iff {a : α} {e : ε} : (pure a : Except ε α) = .error e ↔ False := by
  simp [pure, Except.pure]

end Guard

theorem Function.update_some_eq_some {κ β : Type} [DecidableEq κ] {m : κ → Option β} {k key : κ}
    {x y : β} :
    Function.update m k (some x) key = some y ↔ (key = k ∧ x = y) ∨ (key ≠ k ∧ m key = some y) := by
  rw [Function.update_apply]
  split <;> simp_all

theorem Function.forall_update_some {κ β : Type} [DecidableEq κ] {P : κ → β → Prop}
    {m : κ → Option β} {k key : κ} {x y : β} (h : Function.update m k (some x) key = some y)
    (hm : m key = some y → P key y) (hx : P k x) : P key y := by
  rcases Function.update_some_eq_some.mp h with ⟨rfl, rfl⟩ | ⟨-, h⟩
  . exact hx
  . exact hm h

theorem Function.update_cases {κ β : Type} [DecidableEq κ] {m m' : κ → Option β} {k key : κ}
    {x old new : β} (hkey : m key = some x) (hold : m k = some old)
    (hpost : m' = Function.update m k (some new)) :
    (k = key ∧ old = x ∧ m' key = some new) ∨ (k ≠ key ∧ m' key = some x) := by
  rw [hpost]
  by_cases h : k = key
  . subst h
    rw [hkey, Option.some.injEq] at hold
    exact .inl ⟨rfl, hold.symm, Function.update_self ..⟩
  . right
    rw [Function.update_of_ne (Ne.symm h), hkey]
    exact ⟨h, rfl⟩

theorem Function.update_of_vacant {κ β : Type} [DecidableEq κ] {m m' : κ → Option β} {k key : κ}
    {x new : β} (hkey : m key = some x) (hvacant : m k = none)
    (hpost : m' = Function.update m k (some new)) : m' key = some x := by
  have hne : key ≠ k := by
    rintro rfl
    simp [hvacant] at hkey
  rw [hpost, Function.update_of_ne hne, hkey]

theorem Function.update_eq_none {κ β : Type} [DecidableEq κ] {m m' : κ → Option β} {k key : κ}
    {old new : β} (hkey : m key = none) (hold : m k = some old)
    (hpost : m' = Function.update m k (some new)) : m' key = none := by
  have hne : key ≠ k := by
    rintro rfl
    simp [hold] at hkey
  rw [hpost, Function.update_of_ne hne, hkey]

theorem Function.written_of_none {κ β : Type} [DecidableEq κ] {m m' : κ → Option β} {k key : κ}
    {x new : β} (hkey : m key = none) (hx : m' key = some x)
    (hpost : m' = Function.update m k (some new)) : k = key ∧ new = x := by
  rw [hpost, Function.update_some_eq_some] at hx
  rcases hx with ⟨rfl, rfl⟩ | ⟨-, hx⟩
  . exact ⟨rfl, rfl⟩
  . simp [hkey] at hx

theorem Function.update_eq_some_iff_of_ne {κ β ω : Type} [DecidableEq κ] {m : κ → Option β}
    (owner : β → ω) {o : ω} {k key : κ} {x y : β} (hnew : owner x ≠ o)
    (hold : ∀ z, m k = some z → owner z ≠ o) (hy : owner y = o) :
    Function.update m k (some x) key = some y ↔ m key = some y := by
  rw [Function.update_some_eq_some]
  constructor
  . rintro (⟨-, rfl⟩ | ⟨-, h⟩)
    . exact absurd hy hnew
    . exact h
  . intro h
    refine .inr ⟨?_, h⟩
    rintro rfl
    exact hold y h hy

namespace UInt64

def checkedAdd (a b : UInt64) : Option UInt64 :=
  if a.toNat + b.toNat < 2 ^ 64 then some (a + b) else none

def checkedSub (a b : UInt64) : Option UInt64 :=
  if b ≤ a then some (a - b) else none

@[simp]
theorem checkedAdd_eq_some {a b c : UInt64} :
    a.checkedAdd b = some c ↔ c.toNat = a.toNat + b.toNat := by
  unfold checkedAdd
  split
  . next h =>
    rw [Option.some_inj, ← UInt64.toNat_inj, UInt64.toNat_add, Nat.mod_eq_of_lt h]
    exact eq_comm
  . next h =>
    have := c.toNat_lt
    simp only [reduceCtorEq, false_iff]
    omega

@[simp]
theorem checkedSub_eq_some {a b c : UInt64} :
    a.checkedSub b = some c ↔ a.toNat = c.toNat + b.toNat := by
  unfold checkedSub
  split
  . next h =>
    have hle := UInt64.le_iff_toNat_le.mp h
    rw [Option.some_inj, ← UInt64.toNat_inj, UInt64.toNat_sub_of_le _ _ h]
    omega
  . next h =>
    have hlt := mt UInt64.le_iff_toNat_le.mpr h
    simp only [reduceCtorEq, false_iff]
    omega

end UInt64

namespace Int64

def checkedAdd (a b : Int64) : Option Int64 :=
  if -2 ^ 63 ≤ a.toInt + b.toInt ∧ a.toInt + b.toInt < 2 ^ 63 then
    some (Int64.ofInt (a.toInt + b.toInt))
  else
    none

@[simp]
theorem checkedAdd_eq_some {a b c : Int64} :
    a.checkedAdd b = some c ↔ c.toInt = a.toInt + b.toInt := by
  unfold checkedAdd
  split
  . next h =>
    rw [Option.some_inj, ← Int64.toInt_inj, Int64.toInt_ofInt_of_le h.1 h.2]
    exact eq_comm
  . next h =>
    have hlo := c.le_toInt
    have hhi := c.toInt_lt
    simp only [reduceCtorEq, false_iff]
    omega

end Int64
