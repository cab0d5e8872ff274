import Mathlib.Algebra.Order.Ring.Int

/-!
This module contains searching and splitting of text, and when a search finds what it is looking for.
-/

abbrev Text : Type := List Char

namespace Text

def stripPrefix (pattern text : Text) : Option Text :=
  if pattern.isPrefixOf text then some (text.drop pattern.length) else none

def stripSuffix (pattern text : Text) : Option Text :=
  if pattern.isSuffixOf text then some (text.take (text.length - pattern.length)) else none

def splitOnce (pattern : Text) : Text → Option (Text × Text)
  | [] => if pattern.isEmpty then some ([], []) else none
  | c :: text =>
    match stripPrefix pattern (c :: text) with
    | some rest => some ([], rest)
    | none => (splitOnce pattern text).map fun (before, after) => (c :: before, after)

def parseUInt32 (text : Text) : Option UInt32 := do
  -- A decimal number below `2 ^ 32`, with an optional plus sign.
  let digits :=
    match text with
    | '+' :: digits => digits
    | digits => digits
  if digits.isEmpty then
    none
  let value ← digits.foldlM (fun value digit => do
    if !digit.isDigit then
      none
    let next := 10 * value + (digit.toNat - '0'.toNat)
    if next < 2 ^ 32 then some next else none) 0
  return UInt32.ofNat value

section Search

variable {c d : Char} {pattern text before rest : Text}

theorem stripPrefix_append (pattern rest : Text) : stripPrefix pattern (pattern ++ rest) = some rest := by
  simp [stripPrefix]

theorem eq_of_stripPrefix (h : stripPrefix pattern text = some rest) : text = pattern ++ rest := by
  unfold stripPrefix at h
  split at h
  . next hprefix =>
    rw [List.isPrefixOf_iff_prefix, List.prefix_iff_eq_append] at hprefix
    cases h
    exact hprefix.symm
  . cases h

theorem stripSuffix_append (text pattern : Text) : stripSuffix pattern (text ++ pattern) = some text := by
  simp [stripSuffix]

theorem stripPrefix_eq_none_of_not_mem (hpattern : c ∈ pattern) (htext : c ∉ text) :
    stripPrefix pattern text = none := by
  unfold stripPrefix
  rw [if_neg]
  intro h
  exact htext ((List.isPrefixOf_iff_prefix.mp h).subset hpattern)

theorem splitOnce_eq_some {after : Text} (h : splitOnce pattern text = some (before, after)) :
    text = before ++ pattern ++ after := by
  induction text generalizing before with
  | nil =>
    simp only [splitOnce, Option.ite_none_right_eq_some, List.isEmpty_iff, Option.some.injEq,
      Prod.mk.injEq] at h
    rw [h.1, ← h.2.1, ← h.2.2]
    rfl
  | cons c text ih =>
    unfold splitOnce at h
    split at h
    . next rest hstrip =>
      simp only [Option.some.injEq, Prod.mk.injEq] at h
      simp only [stripPrefix, Option.ite_none_right_eq_some, Option.some.injEq] at hstrip
      obtain ⟨hstart, hdrop⟩ := hstrip
      rw [← h.1, ← h.2, ← hdrop, List.nil_append]
      exact (List.prefix_iff_eq_append.mp (List.isPrefixOf_iff_prefix.mp hstart)).symm
    . rw [Option.map_eq_some_iff] at h
      obtain ⟨⟨before', after'⟩, hsplit, heq⟩ := h
      obtain ⟨rfl, rfl⟩ := Prod.mk.injEq .. ▸ heq
      rw [ih hsplit]
      rfl

theorem splitOnce_eq_none_of_not_mem (hpattern : c ∈ pattern) (htext : c ∉ text) :
    splitOnce pattern text = none := by
  induction text with
  | nil =>
    have hne : pattern.isEmpty = false := by
      rw [List.isEmpty_eq_false_iff]
      exact List.ne_nil_of_mem hpattern
    simp [splitOnce, hne]
  | cons d text ih =>
    rw [splitOnce, stripPrefix_eq_none_of_not_mem hpattern htext,
      ih (List.not_mem_of_not_mem_cons htext)]
    rfl

theorem splitOnce_cons_of_ne (h : c ≠ d) :
    splitOnce (c :: pattern) (d :: text)
      = (splitOnce (c :: pattern) text).map fun (before, after) => (d :: before, after) := by
  have hnone : stripPrefix (c :: pattern) (d :: text) = none := by simp [stripPrefix, h]
  rw [splitOnce, hnone]

theorem splitOnce_append (h : c ∉ before) :
    splitOnce (c :: pattern) (before ++ (c :: pattern ++ rest)) = some (before, rest) := by
  induction before with
  | nil =>
    rw [List.nil_append, List.cons_append, splitOnce, ← List.cons_append, stripPrefix_append]
  | cons d before ih =>
    rw [List.mem_cons, not_or] at h
    rw [List.cons_append, splitOnce_cons_of_ne h.1, ih h.2]
    rfl

end Search

section Decimal

theorem foldlM_digits {digits : Text} {value : Nat} (hdigits : ∀ digit ∈ digits, digit.isDigit)
    (hlt : Nat.ofDigitChars 10 digits value < 2 ^ 32) :
    digits.foldlM (fun value digit => do
      if !digit.isDigit then
        none
      let next := 10 * value + (digit.toNat - '0'.toNat)
      if next < 2 ^ 32 then some next else none) value = some (Nat.ofDigitChars 10 digits value) := by
  -- No number on the way is larger than the last one, so that none overflows.
  induction digits generalizing value with
  | nil => rfl
  | cons digit digits ih =>
    rw [Nat.ofDigitChars_cons] at hlt ⊢
    have hdigit := hdigits digit List.mem_cons_self
    have hnext : 10 * value + (digit.toNat - '0'.toNat) < 2 ^ 32 := by
      rw [Nat.ofDigitChars_eq_ofDigitChars_zero] at hlt
      have hpow : 0 < 10 ^ digits.length := Nat.pow_pos (by omega)
      have hle := Nat.le_mul_of_pos_left (10 * value + (digit.toNat - '0'.toNat)) hpow
      omega
    rw [List.foldlM_cons]
    simp only [hdigit, Bool.not_true, Bool.false_eq_true, if_false, if_pos hnext,
      Option.bind_eq_bind, Option.bind_some]
    exact ih (fun d hd => hdigits d (List.mem_cons_of_mem _ hd)) hlt

theorem parseUInt32_toDigits {n : Nat} (h : n < 2 ^ 32) :
    parseUInt32 (Nat.toDigits 10 n) = some (UInt32.ofNat n) := by
  have hdigits : ∀ digit ∈ Nat.toDigits 10 n, digit.isDigit := by
    intro digit hdigit
    exact Nat.isDigit_of_mem_toDigits (by omega) (by omega) hdigit
  have hread := foldlM_digits hdigits (by rwa [Nat.ofDigitChars_ten_toDigits])
  rw [Nat.ofDigitChars_ten_toDigits] at hread
  have hne : (Nat.toDigits 10 n).isEmpty = false := by
    rw [List.isEmpty_eq_false_iff]
    exact Nat.toDigits_ne_nil
  unfold parseUInt32
  split
  . next digits heq =>
    have hplus := hdigits '+' (by rw [heq]; exact List.mem_cons_self)
    simp at hplus
  . simp only [hne, hread]
    rfl

end Decimal

end Text
