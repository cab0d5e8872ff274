import Mathlib.Data.List.Basic
import IronVault.Observer.Transcript

/-!
This module contains how the observer reads the lines that the runtime writes. Only a message can be
mistaken for something else, and what it opens never has the name of a program.
-/

namespace IronVault.Observer

open Text

section Alphabet

variable {program field : Text} {fields : List Text} {c : Char}

theorem IsProgramId.not_mem (h : IsProgramId program) (hc : c ∉ base58) : c ∉ program := by
  intro hmem
  exact hc (h c hmem)

theorem IsBase64.not_mem (h : IsBase64 field) (hc : c ∉ base64) : c ∉ field := by
  intro hmem
  exact hc (h.chars c hmem)

theorem separator_not_mem (hc : c = ' ' ∨ c = ':' ∨ c = '[') : c ∉ base58 ∧ c ∉ base64 := by
  rw [show base58 = _ from String.toList_ofList, show base64 = _ from String.toList_ofList]
  rcases hc with rfl | rfl | rfl <;> decide +kernel

theorem IsProgramId.no_space (h : IsProgramId program) : ' ' ∉ program :=
  h.not_mem (separator_not_mem (.inl rfl)).1

theorem IsProgramId.no_colon (h : IsProgramId program) : ':' ∉ program :=
  h.not_mem (separator_not_mem (.inr (.inl rfl))).1

theorem IsProgramId.no_bracket (h : IsProgramId program) : '[' ∉ program :=
  h.not_mem (separator_not_mem (.inr (.inr rfl))).1

theorem colon_not_mem_base64 : ':' ∉ base64 :=
  (separator_not_mem (.inr (.inl rfl))).2

theorem bracket_not_mem_base64 : '[' ∉ base64 :=
  (separator_not_mem (.inr (.inr rfl))).2

theorem IsBase64.no_space (h : IsBase64 field) : ' ' ∉ field :=
  h.not_mem (separator_not_mem (.inl rfl)).2

theorem not_mem_toDigits (hc : c.isDigit = false) (n : Nat) : c ∉ Nat.toDigits 10 n := by
  intro hmem
  have hdigit := Nat.isDigit_of_mem_toDigits (by omega) (by omega) hmem
  simp [hc] at hdigit

theorem not_mem_intercalate (hfields : ∀ field ∈ fields, IsBase64 field) (hc : c ∉ base64)
    (hspace : c ≠ ' ') : c ∉ [' '].intercalate fields := by
  induction fields with
  | nil => simp
  | cons field fields ih =>
    have hfield := (hfields field List.mem_cons_self).not_mem hc
    have hrest := ih fun field' hfield' => hfields field' (List.mem_cons_of_mem _ hfield')
    cases fields with
    | nil => simpa using hfield
    | cons next fields =>
      rw [List.intercalate_cons_cons]
      simpa [hspace, hfield] using hrest

theorem not_success_of_suffix {line : Text} (hline : ' ' :: field <:+ line) (hspace : ' ' ∉ field)
    (hne : field ≠ "success".toList) : " success".toList.isSuffixOf line = false := by
  have hword : " success".toList = ' ' :: "success".toList := by decide
  have hspace' : ' ' ∉ "success".toList := by decide
  rw [Bool.eq_false_iff, ne_eq, List.isSuffixOf_iff_suffix, hword]
  generalize "success".toList = word at *
  intro hsuccess
  rcases Nat.le_total (' ' :: field).length (' ' :: word).length with hle | hle
  . rcases List.suffix_cons_iff.mp (List.suffix_of_suffix_length_le hline hsuccess hle) with heq | h
    . exact hne (List.cons.inj heq).2
    . exact hspace' (h.subset List.mem_cons_self)
  . rcases List.suffix_cons_iff.mp (List.suffix_of_suffix_length_le hsuccess hline hle) with heq | h
    . exact hne (List.cons.inj heq).2.symm
    . exact hspace (h.subset List.mem_cons_self)

theorem IsBase64.not_success {line : Text} (h : IsBase64 field) (hline : ' ' :: field <:+ line) :
    " success".toList.isSuffixOf line = false := by
  apply not_success_of_suffix hline h.no_space
  rintro rfl
  simpa using h.length

theorem suffix_intercalate (hne : fields ≠ []) :
    ∃ field ∈ fields, ' ' :: field <:+ ' ' :: [' '].intercalate fields := by
  induction fields with
  | nil => exact absurd rfl hne
  | cons field fields ih =>
    cases fields with
    | nil => exact ⟨field, by simp, by simp⟩
    | cons next fields =>
      obtain ⟨last, hlast, hsuffix⟩ := ih (by simp)
      refine ⟨last, List.mem_cons_of_mem _ hlast, hsuffix.trans ?_⟩
      rw [List.intercalate_cons_cons]
      exact ⟨' ' :: field, by simp⟩

end Alphabet

structure Quiet (line : Text) : Prop where
  parseInvoke : parseInvoke line = none
  endsInvocation : endsInvocation line = false

section Lines

variable {program : Text}

theorem parseInvoke_eq_none {line : Text} (h : '[' ∉ line) : parseInvoke line = none := by
  unfold parseInvoke
  cases hstrip : stripPrefix "Program ".toList line with
  | none => rfl
  | some rest =>
    have hrest : '[' ∉ rest := by
      simp only [stripPrefix, Option.ite_none_right_eq_some, Option.some.injEq] at hstrip
      rw [← hstrip.2]
      exact fun hmem => h (List.mem_of_mem_drop hmem)
    have hsplit : splitOnce " invoke [".toList rest = none :=
      splitOnce_eq_none_of_not_mem (by decide) hrest
    simp only [Option.bind_eq_bind, Option.bind_some, hsplit, Option.bind_none]

theorem parseInvoke_invokeLine (h : IsProgramId program) {depth : Nat} (hdepth : depth < 2 ^ 32) :
    parseInvoke (invokeLine program depth) = some (program, UInt32.ofNat depth) := by
  have hsplit : splitOnce " invoke [".toList
      (program ++ (" invoke [".toList ++ (Nat.toDigits 10 depth ++ "]".toList)))
      = some (program, Nat.toDigits 10 depth ++ "]".toList) :=
    splitOnce_append h.no_space
  unfold parseInvoke invokeLine
  rw [stripPrefix_append]
  simp only [Option.bind_eq_bind, Option.bind_some, hsplit, stripSuffix_append,
    parseUInt32_toDigits hdepth]
  rfl

theorem isProgramData_eq_false {line : Text} (h : ':' ∉ line) : isProgramData line = false := by
  rw [Bool.eq_false_iff]
  intro hdata
  exact h ((List.isPrefixOf_iff_prefix.mp hdata).subset (by decide))

theorem parseInvoke_successLine (h : IsProgramId program) :
    parseInvoke (successLine program) = none := by
  apply parseInvoke_eq_none
  unfold successLine
  simp only [List.mem_append, not_or]
  exact ⟨by decide, h.no_bracket, by decide⟩

theorem endsInvocation_successLine (program : Text) : endsInvocation (successLine program) = true := by
  have hstart : "Program ".toList.isPrefixOf (successLine program) = true := by
    rw [List.isPrefixOf_iff_prefix]
    exact List.prefix_append ..
  have hsuffix : " success".toList.isSuffixOf (successLine program) = true := by
    rw [List.isSuffixOf_iff_suffix]
    unfold successLine
    rw [← List.append_assoc]
    exact List.suffix_append ..
  simp only [endsInvocation, hstart, hsuffix, Bool.true_or, Bool.true_and]

theorem quiet_consumedLine (h : IsProgramId program) (units budget : Nat) :
    Quiet (consumedLine program units budget) ∧
      isProgramData (consumedLine program units budget) = false := by
  have hcolon : ':' ∉ consumedLine program units budget := by
    unfold consumedLine
    simp only [List.mem_append, not_or]
    exact ⟨by decide, h.no_colon, by decide, not_mem_toDigits rfl _, by decide,
      not_mem_toDigits rfl _, by decide⟩
  refine ⟨⟨?_, ?_⟩, isProgramData_eq_false hcolon⟩
  . apply parseInvoke_eq_none
    unfold consumedLine
    simp only [List.mem_append, not_or]
    exact ⟨by decide, h.no_bracket, by decide, not_mem_toDigits rfl _, by decide,
      not_mem_toDigits rfl _, by decide⟩
  . have hunits : " compute units".toList = " compute".toList ++ ' ' :: "units".toList := by decide
    have hsuffix : ' ' :: "units".toList <:+ consumedLine program units budget := by
      unfold consumedLine
      simp only [hunits, ← List.append_assoc]
      exact List.suffix_append ..
    have hfailed : splitOnce " failed:".toList (consumedLine program units budget) = none :=
      splitOnce_eq_none_of_not_mem (by decide) hcolon
    rw [endsInvocation, hfailed, not_success_of_suffix hsuffix (by decide) (by decide)]
    simp

theorem not_failed {front rest : Text} (hfront : ':' ∉ front) (hrest : ':' ∉ rest)
    (hfailed : ¬ " failed".toList <:+ front) :
    splitOnce " failed:".toList (front ++ ':' :: rest) = none := by
  cases hsplit : splitOnce " failed:".toList (front ++ ':' :: rest) with
  | none => rfl
  | some found =>
    -- The only colon of the line would be the one of the pattern
    have hpattern : " failed:".toList = " failed".toList ++ [':'] := by decide
    have heq := splitOnce_eq_some hsplit
    rw [hpattern, ← List.append_assoc, List.append_assoc, List.singleton_append,
      List.append_cons_inj_of_notMem hfront hrest] at heq
    exact absurd ⟨found.1, heq.1.symm⟩ hfailed

theorem quiet_dataLine {fields : List Text} (h : ∀ field ∈ fields, IsBase64 field) :
    Quiet (dataLine fields) ∧ isProgramData (dataLine fields) = true := by
  have hline : dataLine fields = "Program data".toList ++ ':' :: ' ' :: [' '].intercalate fields := by
    have hstart : "Program data: ".toList = "Program data".toList ++ [':', ' '] := by decide
    unfold dataLine
    rw [hstart, List.append_assoc]
    rfl
  refine ⟨⟨?_, ?_⟩, ?_⟩
  . apply parseInvoke_eq_none
    unfold dataLine
    rw [List.mem_append, not_or]
    exact ⟨by decide, not_mem_intercalate h bracket_not_mem_base64 (by decide)⟩
  . have hcolon : ':' ∉ ' ' :: [' '].intercalate fields := by
      rw [List.mem_cons, not_or]
      exact ⟨by decide, not_mem_intercalate h colon_not_mem_base64 (by decide)⟩
    have hsuccess : " success".toList.isSuffixOf (dataLine fields) = false := by
      by_cases hfields : fields = []
      . rw [hfields]
        decide
      . obtain ⟨field, hfield, hsuffix⟩ := suffix_intercalate hfields
        apply (h field hfield).not_success (hsuffix.trans _)
        rw [hline, List.append_cons]
        exact List.suffix_append ..
    unfold endsInvocation
    rw [hsuccess, hline, not_failed (by decide) hcolon (by decide)]
    simp
  . unfold isProgramData dataLine
    rw [List.isPrefixOf_iff_prefix]
    exact List.prefix_append ..

theorem quiet_returnLine {field : Text} (hprogram : IsProgramId program) (hfield : IsBase64 field) :
    Quiet (returnLine program field) ∧ isProgramData (returnLine program field) = false := by
  have hline : returnLine program field
      = "Program return".toList ++ ':' :: ' ' :: (program ++ ' ' :: field) := by
    have hstart : "Program return: ".toList = "Program return".toList ++ [':', ' '] := by decide
    unfold returnLine
    rw [hstart, List.append_assoc]
    rfl
  refine ⟨⟨?_, ?_⟩, ?_⟩
  . apply parseInvoke_eq_none
    unfold returnLine
    simp only [List.mem_append, List.mem_cons, not_or]
    exact ⟨by decide, hprogram.no_bracket, by decide, hfield.not_mem bracket_not_mem_base64⟩
  . have hcolon : ':' ∉ ' ' :: (program ++ ' ' :: field) := by
      simp only [List.mem_append, List.mem_cons, not_or]
      exact ⟨by decide, hprogram.no_colon, by decide, hfield.not_mem colon_not_mem_base64⟩
    have hsuccess : " success".toList.isSuffixOf (returnLine program field) = false := by
      apply hfield.not_success
      unfold returnLine
      rw [← List.append_assoc]
      exact List.suffix_append ..
    unfold endsInvocation
    rw [hsuccess, hline, not_failed (by decide) hcolon (by decide)]
    simp
  . rw [Bool.eq_false_iff]
    intro hdata
    have hreturn : "Program return: ".toList <+: returnLine program field := List.prefix_append ..
    exact absurd (List.prefix_of_prefix_length_le (List.isPrefixOf_iff_prefix.mp hdata) hreturn
      (by decide)) (by decide)

theorem isProgramData_messageLine (text : Text) : isProgramData (messageLine text) = false := by
  rw [Bool.eq_false_iff]
  intro hdata
  have hlog : "Program log: ".toList <+: messageLine text := List.prefix_append ..
  exact absurd (List.prefix_of_prefix_length_le hlog (List.isPrefixOf_iff_prefix.mp hdata)
    (by decide)) (by decide)

theorem ne_of_parseInvoke_messageLine {text opened : Text} {depth : UInt32}
    (h : parseInvoke (messageLine text) = some (opened, depth)) (hprogram : IsProgramId program) :
    opened ≠ program := by
  -- The name before ` invoke [` starts with `log:`, and there is no colon in a program id.
  rintro rfl
  apply hprogram.no_colon
  have hlog : "Program log: ".toList = "Program ".toList ++ ['l', 'o', 'g', ':', ' '] := by decide
  unfold parseInvoke messageLine at h
  rw [hlog, List.append_assoc, stripPrefix_append] at h
  simp only [Option.bind_eq_bind, Option.bind_some, Option.bind_eq_some_iff, Option.pure_def,
    Option.some.injEq, Prod.mk.injEq] at h
  obtain ⟨⟨before, after⟩, hsplit, _, -, _, -, rfl, -⟩ := h
  have heq := splitOnce_eq_some hsplit
  have hpattern : " invoke [".toList = ' ' :: "invoke [".toList := by decide
  rw [hpattern] at heq
  dsimp only
  rcases before with _ | ⟨c₁, _ | ⟨c₂, _ | ⟨c₃, _ | ⟨c₄, before⟩⟩⟩⟩
  . simp at heq
  . simp at heq
  . simp at heq
  . simp at heq
  . simp only [List.cons_append, List.cons.injEq] at heq
    obtain ⟨-, -, -, rfl, -⟩ := heq
    simp

end Lines

end IronVault.Observer
