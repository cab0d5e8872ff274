import IronVault.Util.Checked

/-!
This module contains how two fallible computations are compared: they fail with the same error, or
both succeed with results that are related. Two runs of one handler on two states are compared
statement by statement.
-/

variable {ε α β γ δ : Type}

namespace Except

inductive Related (R : α → β → Prop) : Except ε α → Except ε β → Prop where
  | ok {a : α} {b : β} (h : R a b) : Related R (.ok a) (.ok b)
  | error {e : ε} : Related R (.error e) (.error e)

namespace Related

variable {R : α → β → Prop} {S : γ → δ → Prop} {x : Except ε α} {y : Except ε β}

theorem bind {f : α → Except ε γ} {g : β → Except ε δ} (h : Related R x y)
    (hnext : ∀ a b, x = .ok a → y = .ok b → R a b → Related S (f a) (g b)) :
    Related S (x >>= f) (y >>= g) := by
  cases h with
  | ok h => exact hnext _ _ rfl rfl h
  | error => exact .error

theorem bind_eq {x y : Except ε α} {f : α → Except ε γ} {g : α → Except ε δ} (h : x = y)
    (hnext : ∀ a, y = .ok a → Related S (f a) (g a)) : Related S (x >>= f) (y >>= g) := by
  subst h
  cases x with
  | ok a => exact hnext a rfl
  | error e => exact .error

theorem pure {a : α} {b : β} (h : R a b) :
    Related R (Pure.pure a : Except ε α) (Pure.pure b) :=
  .ok h

theorem map {f : α → γ} {g : β → δ} (h : Related R x y) (hmap : ∀ a b, R a b → S (f a) (g b)) :
    Related S (x.map f) (y.map g) := by
  cases h with
  | ok h => exact .ok (hmap _ _ h)
  | error => exact .error

theorem mono {R' : α → β → Prop} (h : Related R x y) (hmono : ∀ a b, R a b → R' a b) :
    Related R' x y := by
  cases h with
  | ok h => exact .ok (hmono _ _ h)
  | error => exact .error

end Related

end Except
