import IronVault.Util.Run

/-!
This module contains the fixed-window rate limiter. It counts what is spent in the current window
and starts a new one only when the current one is over. A single window never admits more than the
limit, so an interval no longer than a window, which meets two of them at most, never sees more than
twice the limit.
-/

structure Window where
  start : Int
  spent : Nat

namespace Window

structure Charge where
  clock : Option Int
  amount : Nat

inductive Step (width : Int) (limit : Nat) (w : Window) (c : Charge) : Window → Prop where
  | keep (hlimit : c.amount = 0 ∨ w.spent + c.amount ≤ limit) :
      Step width limit w c ⟨w.start, w.spent + c.amount⟩
  | reset {now : Int} (hclock : c.clock = some now) (hend : w.start + width ≤ now)
      (hlimit : c.amount ≤ limit) : Step width limit w c ⟨now, c.amount⟩

def Charge.within (t width : Int) (c : Charge) : Nat :=
  match c.clock with
  | some now => if t ≤ now ∧ now < t + width then c.amount else 0
  | none => 0

def totalWithin (t width : Int) (tr : List (Transition Window Charge)) : Nat :=
  (tr.map (·.action.within t width)).sum

def Ordered (tr : List (Transition Window Charge)) : Prop :=
  tr.Pairwise fun x y => ∀ a ∈ x.action.clock, ∀ b ∈ y.action.clock, a ≤ b

theorem Charge.within_le (c : Charge) (t width : Int) : c.within t width ≤ c.amount := by
  unfold Charge.within
  split
  . split <;> simp
  . simp

theorem Charge.within_eq_zero {t width now : Int} {c : Charge} (hclock : c.clock = some now)
    (hnot : t + width ≤ now) : c.within t width = 0 := by
  simp only [Charge.within, hclock]
  rw [if_neg]
  omega

theorem Charge.le_of_within_ne_zero {t width : Int} {c : Charge} (h : c.within t width ≠ 0) :
    ∃ now, c.clock = some now ∧ t ≤ now := by
  unfold Charge.within at h
  split at h
  . next now hclock =>
    refine ⟨now, hclock, ?_⟩
    by_contra hlt
    rw [if_neg (by omega)] at h
    exact h rfl
  . exact absurd rfl h

theorem totalWithin_snoc (t width : Int) (tr : List (Transition Window Charge))
    (x : Transition Window Charge) :
    totalWithin t width (tr ++ [x]) = totalWithin t width tr + x.action.within t width := by
  simp [totalWithin]

/--
How much of the interval from `t` on has been seen: at most the current window, the current window
and one before it, or all of it.
-/
inductive Progress (t width : Int) (limit : Nat) (tr : List (Transition Window Charge)) (w : Window) :
    Prop where
  | first (hspent : totalWithin t width tr ≤ w.spent) (hlimit : totalWithin t width tr ≤ limit)
      (hlast : totalWithin t width tr = 0 ∨ ∃ x ∈ tr, ∃ now ∈ x.action.clock, t ≤ now)
  | second (hstart : t ≤ w.start) (hspent : totalWithin t width tr ≤ limit + w.spent)
      (hlimit : totalWithin t width tr ≤ 2 * limit)
  | past (hstart : t + width ≤ w.start) (hseen : ∃ x ∈ tr, x.action.clock = some w.start)
      (hlimit : totalWithin t width tr ≤ 2 * limit)

theorem Progress.total_le {t width : Int} {limit : Nat} {tr : List (Transition Window Charge)}
    {w : Window} (h : Progress t width limit tr w) : totalWithin t width tr ≤ 2 * limit := by
  cases h <;> omega

section

variable {t width : Int} {limit : Nat} {tr : List (Transition Window Charge)} {w : Window} {c : Charge}

theorem Progress.keep (h : Progress t width limit tr w)
    (hlimit : c.amount = 0 ∨ w.spent + c.amount ≤ limit) {x : Transition Window Charge}
    (hx : x.action = c) (hordered : Ordered (tr ++ [x])) :
    Progress t width limit (tr ++ [x]) ⟨w.start, w.spent + c.amount⟩ := by
  have hle := c.within_le t width
  have htotal := totalWithin_snoc t width tr x
  rw [hx] at htotal
  cases h with
  | first hspent hbound hlast =>
    apply Progress.first
    . simp only
      omega
    . omega
    . by_cases hzero : c.within t width = 0
      . rcases hlast with hlast | ⟨y, hy, now, hnow⟩
        . exact .inl (by omega)
        . exact .inr ⟨y, List.mem_append_left _ hy, now, hnow⟩
      . obtain ⟨now, hclock, hnow⟩ := Charge.le_of_within_ne_zero hzero
        exact .inr ⟨x, by simp, now, by rw [hx]; exact hclock, hnow⟩
  | second hstart hspent hbound =>
    apply Progress.second
    . exact hstart
    . simp only
      omega
    . omega
  | past hstart hseen hbound =>
    obtain ⟨y, hy, hclock⟩ := hseen
    have hzero : c.within t width = 0 := by
      cases hnow : c.clock with
      | none => simp [Charge.within, hnow]
      | some now =>
        have hlater := (List.pairwise_append.mp hordered).2.2 y hy x (by simp) w.start hclock now
          (by rw [hx]; exact hnow)
        exact Charge.within_eq_zero hnow (by omega)
    apply Progress.past
    . exact hstart
    . exact ⟨y, List.mem_append_left _ hy, hclock⟩
    . omega

theorem Progress.reset (hwidth : 0 < width) (h : Progress t width limit tr w) {now : Int}
    (hclock : c.clock = some now) (hend : w.start + width ≤ now) (hlimit : c.amount ≤ limit)
    {x : Transition Window Charge} (hx : x.action = c) (hordered : Ordered (tr ++ [x])) :
    Progress t width limit (tr ++ [x]) ⟨now, c.amount⟩ := by
  have hle := c.within_le t width
  have htotal := totalWithin_snoc t width tr x
  rw [hx] at htotal
  have hmem : x ∈ tr ++ [x] := by simp
  have hclock' : x.action.clock = some now := by rw [hx, hclock]
  -- A third window would start after the interval
  have hpast (hstart : t + width ≤ now) (hbound : totalWithin t width tr ≤ 2 * limit) :
      Progress t width limit (tr ++ [x]) ⟨now, c.amount⟩ := by
    have hzero := Charge.within_eq_zero hclock hstart
    exact .past hstart ⟨x, hmem, hclock'⟩ (by omega)
  cases h with
  | first hspent hbound hlast =>
    rcases hlast with hlast | ⟨y, hy, before, hbefore, hge⟩
    . apply Progress.first
      . simp only
        omega
      . omega
      . by_cases hzero : c.within t width = 0
        . exact .inl (by omega)
        . obtain ⟨now', hclock'', hnow⟩ := Charge.le_of_within_ne_zero hzero
          exact .inr ⟨x, hmem, now', by rw [hx]; exact hclock'', hnow⟩
    . have hlater := (List.pairwise_append.mp hordered).2.2 y hy x (by simp) before hbefore now
        hclock'
      apply Progress.second
      . simp only
        omega
      . simp only
        omega
      . omega
  | second hstart hspent hbound => exact hpast (by omega) hbound
  | past hstart hseen hbound => exact hpast (by omega) hbound

end

theorem totalWithin_le {t width : Int} {limit : Nat} {tr : List (Transition Window Charge)}
    {w w' : Window} (hwidth : 0 < width) (run : Run (Step width limit) w tr w')
    (hordered : Ordered tr) : totalWithin t width tr ≤ 2 * limit := by
  -- An interval of length `width` meets at most two windows.
  suffices Progress t width limit tr w' from this.total_le
  induction run with
  | nil => exact .first (by simp [totalWithin]) (by simp [totalWithin]) (.inl rfl)
  | snoc run hstep ih =>
    have hprogress := ih (List.pairwise_append.mp hordered).1
    cases hstep with
    | keep hlimit => exact hprogress.keep hlimit rfl hordered
    | reset hclock hend hlimit => exact hprogress.reset hwidth hclock hend hlimit rfl hordered

end Window
