import Mathlib.Data.Int.Log
import Mathlib.Data.Rat.Floor
import Mathlib.Tactic.Linarith
import Mathlib.Tactic.FieldSimp

/-!
This module contains double precision numbers as rationals. Every finite double is a rational, and
the result of an operation is the exact one, rounded to 53 significant bits with ties to even. The
main result says that this rounding does not move a fraction of moderate size across an integer.
-/

inductive Double where
  | nan
  | infinity (negative : Bool)
  | finite (value : ℚ)
  deriving DecidableEq

namespace Double

def roundHalfEven (x : ℚ) : ℤ :=
  if x - ⌊x⌋ < 1 / 2 then ⌊x⌋
  else if 1 / 2 < x - ⌊x⌋ then ⌊x⌋ + 1
  else if Even ⌊x⌋ then ⌊x⌋
  else ⌊x⌋ + 1

def ulp (x : ℚ) : ℚ :=
  -- The exponent of a subnormal number is that of the smallest normal one.
  2 ^ (max (Int.log 2 |x|) (-1022) - 52)

/--
The double nearest to a rational below the overflow threshold.
-/
def round (x : ℚ) : ℚ :=
  roundHalfEven (x / ulp x) * ulp x

theorem floor_le_roundHalfEven (x : ℚ) : ⌊x⌋ ≤ roundHalfEven x := by
  unfold roundHalfEven
  split
  . exact Int.le_refl _
  . split
    . omega
    . split <;> omega

theorem roundHalfEven_le (x : ℚ) : (roundHalfEven x : ℚ) ≤ x + 1 / 2 := by
  have hfloor := Int.floor_le x
  unfold roundHalfEven
  split
  . linarith
  . next hlow =>
    split
    . push_cast
      linarith
    . split
      . linarith
      . push_cast
        linarith

theorem ulp_pos (x : ℚ) : 0 < ulp x := by
  unfold ulp
  exact zpow_pos (by norm_num) _

theorem exponent_lt {x : ℚ} {k : Nat} (h : |x| < 2 ^ k) (hk : 0 < k) :
    max (Int.log 2 |x|) (-1022) < k := by
  apply max_lt
  . by_cases hx : x = 0
    . simp only [hx, abs_zero, Int.log_zero_right]
      omega
    . rw [← Int.lt_zpow_iff_log_lt (by decide) (abs_pos.mpr hx)]
      simpa using h
  . omega

theorem ulp_le {x : ℚ} {k : Nat} (h : |x| < 2 ^ k) (hk : 0 < k) : ulp x ≤ 2 ^ ((k : ℤ) - 53) := by
  have hexponent := exponent_lt h hk
  unfold ulp
  apply zpow_le_zpow_right₀ (by norm_num)
  omega

theorem exists_div_ulp {x : ℚ} {k : Nat} (h : |x| < 2 ^ k) (hk : 0 < k) (hk' : k ≤ 53) (n : ℤ) :
    ∃ m : ℤ, (m : ℚ) * ulp x = n := by
  have hexponent := exponent_lt h hk
  -- The last place is worth `2 ^ -e`, so that every integer has a representation.
  obtain ⟨e, he⟩ : ∃ e : Nat, max (Int.log 2 |x|) (-1022) - 52 = -(e : ℤ) :=
    ⟨(52 - max (Int.log 2 |x|) (-1022)).toNat, by omega⟩
  refine ⟨n * 2 ^ e, ?_⟩
  unfold ulp
  rw [he, zpow_neg, zpow_natCast]
  push_cast
  field_simp

theorem le_round {x : ℚ} {k : Nat} (h : |x| < 2 ^ k) (hk : 0 < k) (hk' : k ≤ 53) {n : ℤ}
    (hn : (n : ℚ) ≤ x) : (n : ℚ) ≤ round x := by
  obtain ⟨m, hm⟩ := exists_div_ulp h hk hk' n
  have hpos := ulp_pos x
  have hm' : m ≤ ⌊x / ulp x⌋ := by
    rw [Int.le_floor, le_div_iff₀ hpos, hm]
    exact hn
  have hm'' : (m : ℚ) ≤ roundHalfEven (x / ulp x) := by
    exact_mod_cast hm'.trans (floor_le_roundHalfEven _)
  calc
    (n : ℚ) = m * ulp x := hm.symm
    _ ≤ round x := mul_le_mul_of_nonneg_right hm'' hpos.le

theorem round_le (x : ℚ) : round x ≤ x + ulp x / 2 := by
  have hpos := ulp_pos x
  calc
    round x ≤ (x / ulp x + 1 / 2) * ulp x :=
      mul_le_mul_of_nonneg_right (roundHalfEven_le _) hpos.le
    _ = x + ulp x / 2 := by field_simp

/--
A fraction with denominator `d` stays at least `1 / d` below the next integer, and rounding moves it
by at most half a unit in the last place.
-/
theorem floor_round_div {a : ℤ} {d k : Nat} (hd : 0 < d) (hk : 0 < k) (hk' : k ≤ 53)
    (h : |(a : ℚ) / d| < 2 ^ k) (hroom : d * 2 ^ k < 2 ^ 54) :
    ⌊round ((a : ℚ) / d)⌋ = a / d := by
  have hd' : (0 : ℚ) < d := by exact_mod_cast hd
  have hlow : ((a / d : ℤ) : ℚ) ≤ (a : ℚ) / d := by
    rw [le_div_iff₀ hd']
    exact_mod_cast Int.ediv_mul_le a (by omega)
  have hhigh : (a : ℚ) / d + 1 / d ≤ ((a / d : ℤ) : ℚ) + 1 := by
    rw [← add_div, div_le_iff₀ hd']
    have hlt : a < (a / d + 1) * d := Int.lt_ediv_add_one_mul_self a (by omega)
    exact_mod_cast hlt
  have hulp : ulp ((a : ℚ) / d) / 2 < 1 / d := by
    have hpow : (2 : ℚ) ^ ((k : ℤ) - 53) = 2 ^ k / 2 ^ 53 := by
      rw [zpow_sub₀ (by norm_num)]
      norm_cast
    have hle := ulp_le h hk
    have hroom' : (d : ℚ) * 2 ^ k < 2 ^ 54 := by exact_mod_cast hroom
    rw [hpow] at hle
    rw [lt_div_iff₀ hd']
    have hmul := mul_le_mul_of_nonneg_right hle hd'.le
    have hsize : (2 : ℚ) ^ k / 2 ^ 53 * d < 2 := by
      rw [div_mul_eq_mul_div, div_lt_iff₀ (by norm_num)]
      linarith
    linarith
  rw [Int.floor_eq_iff]
  constructor
  . exact le_round h hk hk' hlow
  . have hround := round_le ((a : ℚ) / d)
    linarith

def floor : Double → Double
  | .finite value => .finite ⌊value⌋
  | x => x

def isSafeInteger : Double → Bool
  | .finite value => value.den = 1 ∧ |value| ≤ 2 ^ 53 - 1
  | _ => false

end Double
