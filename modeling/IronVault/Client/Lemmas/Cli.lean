import Mathlib.Data.List.Nodup
import IronVault.Client.Impl.Cli

/-!
This module contains the grammar of the command line: what its options are, which of them are accepted,
and which method they denote. Parsing and this grammar agree.
-/

namespace IronVault.Client.Cli

/-- An option as it is written. -/
inductive CliOption where
  | json
  | pair (name value : String)
  deriving DecidableEq

namespace CliOption

def argv : CliOption → List String
  | json => ["--json"]
  | pair name value => ["--" ++ name, value]

def name? : CliOption → Option String
  | json => none
  | pair name _ => some name

def Valid : CliOption → Prop
  | json => True
  | pair name value =>
    name ≠ "json" ∧ name ∉ objectPrototype ∧ value ≠ "" ∧ ¬ "--".toList <+: value.toList

def set (options : Options) : CliOption → Options
  | json => Function.update options "json" (some (.boolean true))
  | pair name value => Function.update options name (some (.string value))

end CliOption

structure Accepted (l : List CliOption) : Prop where
  valid : ∀ option ∈ l, option.Valid
  distinct : (l.filterMap CliOption.name?).Nodup

section Parse

variable {options result : Options} {l l' : List CliOption} {flag name value : String}

theorem flagName_append (name : String) : flagName ("--" ++ name) = some name := by
  unfold flagName
  rw [String.toList_append, Text.stripPrefix_append]
  simp

theorem flagName_eq_some (h : flagName flag = some name) : flag = "--" ++ name := by
  obtain ⟨rest, hrest, rfl⟩ := Option.map_eq_some_iff.mp h
  apply String.toList_injective
  rw [Text.eq_of_stripPrefix hrest, String.toList_append]
  exact congrArg _ String.toList_ofList.symm

theorem flagName_eq_none_iff : flagName flag = none ↔ ¬ "--".toList <+: flag.toList := by
  unfold flagName Text.stripPrefix
  rw [← List.isPrefixOf_iff_prefix]
  split <;> simp_all

theorem parseOptions_json (rest : List String) :
    parseOptions options ("--json" :: rest)
      = parseOptions (Function.update options "json" (some (.boolean true))) rest := by
  have hname : flagName "--json" = some "json" := flagName_append "json"
  cases rest with
  | nil => simp [parseOptions, hname]
  | cons value rest => simp [parseOptions, hname]

theorem parseOptions_pair (hvalid : (CliOption.pair name value).Valid) (hfree : options name = none)
    (rest : List String) :
    parseOptions options (("--" ++ name) :: value :: rest)
      = parseOptions (Function.update options name (some (.string value))) rest := by
  obtain ⟨hjson, hobject, hempty, hdashes⟩ := hvalid
  rw [← flagName_eq_none_iff] at hdashes
  have hnew : options.has name = false := by
    simp [Options.has, hfree, hobject]
  simp [parseOptions, flagName_append, hjson, hempty, hdashes, hnew]

/--
The options of a command line whose names are still free in `options`.
-/
structure Fits (options : Options) (l : List CliOption) : Prop extends Accepted l where
  free : ∀ name ∈ l.filterMap CliOption.name?, options name = none

theorem Accepted.ne_json (h : Accepted l) (hname : name ∈ l.filterMap CliOption.name?) :
    name ≠ "json" := by
  obtain ⟨option, hoption, hsome⟩ := List.mem_filterMap.mp hname
  cases option with
  | json => cases hsome
  | pair name' value =>
    cases hsome
    exact (h.valid _ hoption).1

theorem Fits.json_iff :
    Fits options (.json :: l) ↔ Fits (Function.update options "json" (some (.boolean true))) l := by
  constructor
  . rintro ⟨⟨hvalid, hdistinct⟩, hfree⟩
    rw [List.filterMap_cons_none (f := CliOption.name?) rfl] at hdistinct hfree
    have hl : Accepted l := ⟨fun o ho => hvalid o (List.mem_cons_of_mem _ ho), hdistinct⟩
    refine ⟨hl, ?_⟩
    intro name hname
    rw [Function.update_of_ne (hl.ne_json hname)]
    exact hfree name hname
  . rintro ⟨hl, hfree⟩
    refine ⟨⟨?_, hl.distinct⟩, ?_⟩
    . rw [List.forall_mem_cons]
      exact ⟨trivial, hl.valid⟩
    . intro name hname
      have hfree := hfree name hname
      rwa [Function.update_of_ne (hl.ne_json hname)] at hfree

theorem Fits.pair_iff :
    Fits options (.pair name value :: l) ↔ (CliOption.pair name value).Valid ∧ options name = none ∧
      Fits (Function.update options name (some (.string value))) l := by
  constructor
  . rintro ⟨⟨hvalid, hdistinct⟩, hfree⟩
    rw [List.filterMap_cons_some (f := CliOption.name?) rfl] at hdistinct hfree
    obtain ⟨hnotin, hdistinct⟩ := List.nodup_cons.mp hdistinct
    obtain ⟨hpair, hvalid⟩ := List.forall_mem_cons.mp hvalid
    obtain ⟨hname, hfree⟩ := List.forall_mem_cons.mp hfree
    refine ⟨hpair, hname, ⟨hvalid, hdistinct⟩, ?_⟩
    intro name' hname'
    have hne : name' ≠ name := fun h => hnotin (h ▸ hname')
    rw [Function.update_of_ne hne]
    exact hfree name' hname'
  . rintro ⟨hpair, hname, hl, hfree⟩
    have hrest : ∀ name' ∈ l.filterMap CliOption.name?, name' ≠ name ∧ options name' = none := by
      intro name' hname'
      have hfree := hfree name' hname'
      by_cases heq : name' = name
      . rw [heq, Function.update_self] at hfree
        cases hfree
      . rw [Function.update_of_ne heq] at hfree
        exact ⟨heq, hfree⟩
    refine ⟨⟨List.forall_mem_cons.mpr ⟨hpair, hl.valid⟩, ?_⟩, ?_⟩
    . rw [List.filterMap_cons_some (f := CliOption.name?) rfl, List.nodup_cons]
      exact ⟨fun hmem => (hrest name hmem).1 rfl, hl.distinct⟩
    . rw [List.filterMap_cons_some (f := CliOption.name?) rfl, List.forall_mem_cons]
      exact ⟨hname, fun name' hname' => (hrest name' hname').2⟩

theorem parseOptions_flatMap (h : Fits options l) :
    parseOptions options (l.flatMap CliOption.argv) = .ok (l.foldl CliOption.set options) := by
  induction l generalizing options with
  | nil => rfl
  | cons option l ih =>
    rw [List.flatMap_cons, List.foldl_cons]
    cases option with
    | json =>
      show parseOptions options ("--json" :: l.flatMap CliOption.argv) = _
      rw [parseOptions_json]
      exact ih (Fits.json_iff.mp h)
    | pair name value =>
      obtain ⟨hvalid, hname, hl⟩ := Fits.pair_iff.mp h
      show parseOptions options (("--" ++ name) :: value :: l.flatMap CliOption.argv) = _
      rw [parseOptions_pair hvalid hname]
      exact ih hl

theorem eq_flatMap_of_parseOptions {args : List String} (h : parseOptions options args = .ok result) :
    ∃ l : List CliOption, args = l.flatMap CliOption.argv ∧ Fits options l := by
  fun_induction parseOptions options args with
  | case1 options => exact ⟨[], rfl, ⟨by simp, by simp⟩, by simp⟩
  | case3 options flag hname =>
    rw [flagName_eq_some hname]
    refine ⟨[.json], rfl, Fits.json_iff.mpr ⟨⟨by simp, by simp⟩, by simp⟩⟩
  | case6 options flag value rest hname ih =>
    obtain ⟨l, hargs, hl⟩ := ih h
    rw [flagName_eq_some hname, hargs]
    exact ⟨.json :: l, rfl, Fits.json_iff.mpr hl⟩
  | case9 options flag value rest name hname hjson hvalue hnew ih =>
    obtain ⟨l, hargs, hl⟩ := ih h
    rw [flagName_eq_some hname, hargs]
    simp only [not_or, Bool.not_eq_true, Option.isSome_eq_false_iff, Option.isNone_iff_eq_none,
      flagName_eq_none_iff] at hvalue
    simp only [Options.has, Bool.or_eq_true, not_or, Bool.not_eq_true, Option.isSome_eq_false_iff,
      Option.isNone_iff_eq_none, List.contains_iff_mem] at hnew
    exact ⟨.pair name value :: l, rfl,
      Fits.pair_iff.mpr ⟨⟨hjson, hnew.2, hvalue⟩, hnew.1, hl⟩⟩
  | case2 | case4 | case5 | case7 | case8 => cases h

theorem foldl_set_of_not_mem (hjson : name ≠ "json")
    (hname : name ∉ l.filterMap CliOption.name?) :
    l.foldl CliOption.set options name = options name := by
  induction l generalizing options with
  | nil => rfl
  | cons option l ih =>
    rw [List.foldl_cons]
    cases option with
    | json =>
      rw [ih hname]
      exact Function.update_of_ne hjson ..
    | pair name' value =>
      rw [List.filterMap_cons_some (f := CliOption.name?) rfl, List.mem_cons, not_or] at hname
      rw [ih hname.2]
      exact Function.update_of_ne hname.1 ..

theorem foldl_set_json (hvalid : ∀ option ∈ l, option.Valid) :
    l.foldl CliOption.set options "json"
      = if .json ∈ l then some (.boolean true) else options "json" := by
  induction l generalizing options with
  | nil => rfl
  | cons option l ih =>
    obtain ⟨hoption, hvalid⟩ := List.forall_mem_cons.mp hvalid
    rw [List.foldl_cons, ih hvalid]
    cases option with
    | json => simp [CliOption.set]
    | pair name value =>
      have hne : "json" ≠ name := Ne.symm hoption.1
      simp [CliOption.set, Function.update_of_ne hne]

theorem foldl_set_pair (h : Accepted l) (hmem : .pair name value ∈ l) :
    l.foldl CliOption.set options name = some (.string value) := by
  induction l generalizing options with
  | nil => simp at hmem
  | cons option l ih =>
    obtain ⟨hvalid, hdistinct⟩ := h
    obtain ⟨hoption, hvalid⟩ := List.forall_mem_cons.mp hvalid
    rw [List.foldl_cons]
    cases List.mem_cons.mp hmem with
    | inl heq =>
      subst heq
      rw [List.filterMap_cons_some (f := CliOption.name?) rfl, List.nodup_cons] at hdistinct
      rw [foldl_set_of_not_mem hoption.1 hdistinct.1]
      exact Function.update_self ..
    | inr hmem => exact ih ⟨hvalid, hdistinct.sublist ((List.sublist_cons_self _ _).filterMap _)⟩ hmem

/--
The options by name.
-/
def values (l : List CliOption) : Options :=
  l.foldl CliOption.set fun _ => none

theorem parseOptions_values (h : Accepted l) :
    parseOptions (fun _ => none) (l.flatMap CliOption.argv) = .ok (values l) :=
  parseOptions_flatMap ⟨h, fun _ _ => rfl⟩

theorem values_eq_some_iff (h : Accepted l) (hjson : name ≠ "json") :
    values l name = some (.string value) ↔ .pair name value ∈ l := by
  constructor
  . intro hvalue
    by_cases hname : name ∈ l.filterMap CliOption.name?
    . obtain ⟨option, hoption, hsome⟩ := List.mem_filterMap.mp hname
      cases option with
      | json => cases hsome
      | pair name' value' =>
        cases hsome
        have hvalue' : values l name = some (.string value') := foldl_set_pair h hoption
        rw [hvalue'] at hvalue
        cases hvalue
        exact hoption
    . have hnone : values l name = none := foldl_set_of_not_mem hjson hname
      rw [hnone] at hvalue
      cases hvalue
  . intro hmem
    exact foldl_set_pair h hmem

theorem Accepted.perm (h : Accepted l) (hperm : l.Perm l') : Accepted l' where
  valid option hoption := h.valid option (hperm.mem_iff.mpr hoption)
  distinct := (hperm.filterMap _).nodup_iff.mp h.distinct

theorem values_perm (h : Accepted l) (hperm : l.Perm l') : values l = values l' := by
  have h' := h.perm hperm
  funext name
  by_cases hjson : name = "json"
  . rw [hjson]
    show l.foldl CliOption.set _ _ = l'.foldl CliOption.set _ _
    simp only [foldl_set_json h.valid, foldl_set_json h'.valid, hperm.mem_iff]
  . by_cases hname : name ∈ l.filterMap CliOption.name?
    . obtain ⟨option, hoption, hsome⟩ := List.mem_filterMap.mp hname
      cases option with
      | json => cases hsome
      | pair name' value =>
        cases hsome
        rw [(values_eq_some_iff h hjson).mpr hoption,
          (values_eq_some_iff h' hjson).mpr (hperm.mem_iff.mp hoption)]
    . have hname' : name ∉ l'.filterMap CliOption.name? :=
        fun hmem => hname ((hperm.filterMap _).mem_iff.mpr hmem)
      show l.foldl CliOption.set _ _ = l'.foldl CliOption.set _ _
      rw [foldl_set_of_not_mem hjson hname, foldl_set_of_not_mem hjson hname']

theorem parseInvocation_eq_ok_iff {argv : List String} {group action : String}
    (hgroup : group ≠ "help") :
    parseInvocation argv = .ok ⟨group, action, options⟩ ↔ "--help" ∉ argv ∧ "-h" ∉ argv ∧
      ∃ l, argv = group :: action :: l.flatMap CliOption.argv ∧ Accepted l ∧ options = values l := by
  constructor
  . intro h
    unfold parseInvocation at h
    split at h
    . cases h
      contradiction
    . next hhelp =>
      rw [not_or] at hhelp
      refine ⟨hhelp.1, hhelp.2, ?_⟩
      split at h
      . next group action rest hargv =>
        simp only [Except.bind_eq_ok_iff, Except.pure_eq_ok_iff] at h
        obtain ⟨options', hoptions, heq⟩ := h
        cases heq
        obtain ⟨l, hrest, hl⟩ := eq_flatMap_of_parseOptions hoptions
        rw [hrest, parseOptions_flatMap hl] at hoptions
        cases hoptions
        exact ⟨l, by rw [hrest], hl.toAccepted, rfl⟩
      . cases h
  . rintro ⟨hlong, hshort, l, hargv, hl, hoptions⟩
    have hhelp : ¬ ("--help" ∈ argv ∨ "-h" ∈ argv) := not_or.mpr ⟨hlong, hshort⟩
    unfold parseInvocation
    rw [if_neg hhelp, hargv, hoptions]
    simp only [parseOptions_values hl]
    rfl

end Parse

section Meaning

variable {Pubkey : Type} {l : List CliOption} {name value : String}

/--
Decimal digits, leading zeros included.
-/
def Decimal (text : String) (n : Nat) : Prop :=
  text.toList ≠ [] ∧ (∀ c ∈ text.toList, c.isDigit) ∧ Nat.ofDigitChars 10 text.toList 0 = n

def Numeral (l : List CliOption) (name : String) (n : Nat) : Prop :=
  ∃ text, .pair name text ∈ l ∧ Decimal text n

def Numeral? (l : List CliOption) (name : String) : Option Nat → Prop
  | some n => Numeral l name n
  | none => ∀ text, .pair name text ∉ l

def Given (l : List CliOption) (name : String) (value : Option String) : Prop :=
  ∀ text, value = some text ↔ .pair name text ∈ l

/--
Seconds since 1970, which may be negative, or any other text that denotes a date.
-/
inductive Expires (date : String → Date) (text : String) : Timestamp → Prop where
  | seconds {n : Nat} (h : Decimal text n) : Expires date text (.integer (.bigint n))
  | past {digits : String} {n : Nat} (htext : text = "-" ++ digits) (h : Decimal digits n) :
      Expires date text (.integer (.bigint (-n)))
  | date (hseconds : ∀ n, ¬ Decimal text n)
      (hpast : ∀ digits n, text = "-" ++ digits → ¬ Decimal digits n)
      (h : (date text).time.isSome) : Expires date text (.date (date text))

/--
The commands of the usage text.
-/
inductive Commands (date : String → Date) (l : List CliOption) :
    String → String → Method Pubkey → Prop where
  | createEscrow {recipient mint expiresAt : String} {amount : Nat} {time : Timestamp} {id : Option Nat}
      {source : Option String} (hrecipient : .pair "recipient" recipient ∈ l)
      (hmint : .pair "mint" mint ∈ l) (hamount : Numeral l "amount" amount)
      (hexpires : .pair "expires-at" expiresAt ∈ l) (htime : Expires date expiresAt time)
      (hid : Numeral? l "escrow-id" id) (hsource : Given l "source-token" source) :
      Commands date l "escrow" "create" (.createEscrow ⟨.string recipient, .string mint, .bigint amount,
        time, id.map fun (n : Nat) => .bigint n, source.map .string⟩)
  | releaseEscrow {id : Nat} {escrow destination : Option String} (hid : Numeral l "escrow-id" id)
      (hescrow : Given l "escrow" escrow) (hdestination : Given l "destination-token" destination) :
      Commands date l "escrow" "release"
        (.releaseEscrow ⟨.bigint id, escrow.map .string, destination.map .string⟩)
  | refundEscrow {escrow : String} {id : Nat} {destination : Option String}
      (hescrow : .pair "escrow" escrow ∈ l) (hid : Numeral l "escrow-id" id)
      (hdestination : Given l "destination-token" destination) :
      Commands date l "escrow" "refund"
        (.refundEscrow ⟨.bigint id, some (.string escrow), destination.map .string⟩)
  | createVault {guardian : String} {id : Option Nat} (hguardian : .pair "guardian" guardian ∈ l)
      (hid : Numeral? l "vault-id" id) :
      Commands date l "vault" "create"
        (.createVault ⟨.string guardian, id.map fun (n : Nat) => .bigint n⟩)
  | registerAsset {vault mint : String} (hvault : .pair "vault" vault ∈ l)
      (hmint : .pair "mint" mint ∈ l) :
      Commands date l "vault" "register-asset" (.registerAsset ⟨.string vault, .string mint⟩)
  | deposit {vault mint : String} {amount : Nat} {source : Option String}
      (hvault : .pair "vault" vault ∈ l) (hmint : .pair "mint" mint ∈ l)
      (hamount : Numeral l "amount" amount) (hsource : Given l "source-token" source) :
      Commands date l "vault" "deposit"
        (.deposit ⟨⟨.string vault, .string mint⟩, .bigint amount, source.map .string⟩)
  | requestWithdrawal {vault mint recipient : String} {amount : Nat} {recipientToken : Option String}
      (hvault : .pair "vault" vault ∈ l) (hmint : .pair "mint" mint ∈ l)
      (hrecipient : .pair "recipient" recipient ∈ l) (hamount : Numeral l "amount" amount)
      (htoken : Given l "recipient-token" recipientToken) :
      Commands date l "withdrawal" "request" (.requestWithdrawal ⟨⟨.string vault, .string mint⟩,
        .string recipient, .bigint amount, recipientToken.map .string⟩)

theorem decimal_iff {text : String} {n : Nat} :
    Decimal text n ↔ isNumeral text.toList ∧ Nat.ofDigitChars 10 text.toList 0 = n := by
  simp [Decimal, isNumeral, and_assoc]

theorem required_eq_ok_iff (h : Accepted l) (hjson : name ≠ "json") :
    (values l).required name = .ok value ↔ .pair name value ∈ l := by
  rw [← values_eq_some_iff h hjson]
  unfold Options.required
  split <;> simp_all [pure, Except.pure, throw, throwThe, MonadExceptOf.throw]

theorem optional_eq_some_iff (h : Accepted l) (hjson : name ≠ "json") :
    (values l).optional name = some value ↔ .pair name value ∈ l := by
  rw [← values_eq_some_iff h hjson]
  unfold Options.optional
  split <;> simp_all

theorem given_iff (h : Accepted l) (hjson : name ≠ "json") {value : Option String} :
    Given l name value ↔ (values l).optional name = value := by
  unfold Given
  simp only [← optional_eq_some_iff h hjson]
  constructor
  . intro heq
    exact Option.ext fun text => (heq text).symm
  . intro heq text
    rw [heq]

theorem integer_eq_ok_iff {i : Int} :
    integer value name = .ok i ↔ ∃ n : Nat, i = n ∧ Decimal value n := by
  simp only [decimal_iff]
  unfold integer
  split
  . next hnumeral =>
    rw [Except.pure_eq_ok_iff]
    simp [hnumeral, eq_comm]
  . next hnumeral => simp [hnumeral]

theorem parsed_eq_ok_iff {date : String → Date} {time : Timestamp} :
    expiry.parsed date value = .ok time ↔ (date value).time.isSome ∧ time = .date (date value) := by
  unfold expiry.parsed
  split
  . next htime =>
    rw [Except.pure_eq_ok_iff]
    simp [htime, eq_comm]
  . next htime => simp [htime]

theorem not_decimal_of_minus {digits : Text} {n : Nat} (h : value.toList = '-' :: digits) :
    ¬ Decimal value n := by
  intro hdecimal
  have hdigit := hdecimal.2.1 '-' (by rw [h]; exact List.mem_cons_self)
  cases hdigit

theorem eq_minus_iff {digits : Text} :
    value.toList = '-' :: digits ↔ value = "-" ++ String.ofList digits := by
  rw [← String.toList_inj, String.toList_append]
  simp

theorem expiry_eq_ok_iff {date : String → Date} {time : Timestamp} :
    expiry date value = .ok time ↔ Expires date value time := by
  constructor
  . intro h
    unfold expiry at h
    split at h
    . next digits htext =>
      have hvalue := eq_minus_iff.mp htext
      split at h
      . next hnumeral =>
        rw [Except.pure_eq_ok_iff] at h
        subst h
        apply Expires.past hvalue
        rw [decimal_iff, String.toList_ofList]
        exact ⟨hnumeral, rfl⟩
      . next hnumeral =>
        obtain ⟨hdate, rfl⟩ := parsed_eq_ok_iff.mp h
        apply Expires.date (fun n => not_decimal_of_minus htext) _ hdate
        intro digits' n hvalue' hdecimal
        rw [hvalue', String.append_right_inj] at hvalue
        rw [decimal_iff, hvalue, String.toList_ofList] at hdecimal
        exact hnumeral hdecimal.1
    . next htext =>
      split at h
      . next hnumeral =>
        rw [Except.pure_eq_ok_iff] at h
        subst h
        exact Expires.seconds (decimal_iff.mpr ⟨hnumeral, rfl⟩)
      . next hnumeral =>
        obtain ⟨hdate, rfl⟩ := parsed_eq_ok_iff.mp h
        apply Expires.date _ _ hdate
        . intro n hdecimal
          exact hnumeral (decimal_iff.mp hdecimal).1
        . intro digits n hvalue hdecimal
          apply htext digits.toList
          rw [eq_minus_iff, String.ofList_toList, hvalue]
  . intro h
    unfold expiry
    cases h with
    | seconds h =>
      split
      . next digits htext => exact absurd h (not_decimal_of_minus htext)
      . rw [decimal_iff] at h
        rw [if_pos h.1, h.2]
        rfl
    | @past digits n htext h =>
      rw [decimal_iff] at h
      have hlist : value.toList = '-' :: digits.toList := by
        rw [eq_minus_iff, String.ofList_toList, htext]
      simp only [hlist]
      rw [if_pos h.1, h.2]
      rfl
    | date hseconds hpast h =>
      have hparsed := parsed_eq_ok_iff.mpr ⟨h, rfl⟩
      split
      . next digits htext =>
        rw [if_neg, hparsed]
        intro hnumeral
        apply hpast (String.ofList digits) _ (eq_minus_iff.mp htext)
        rw [decimal_iff, String.toList_ofList]
        exact ⟨hnumeral, rfl⟩
      . rw [if_neg, hparsed]
        intro hnumeral
        exact hseconds _ (decimal_iff.mpr ⟨hnumeral, rfl⟩)

theorem numeral_iff (h : Accepted l) (hjson : name ≠ "json") {i : Int} :
    (∃ text, (values l).required name = .ok text ∧ integer text name = .ok i)
      ↔ ∃ n : Nat, i = n ∧ Numeral l name n := by
  simp only [required_eq_ok_iff h hjson, integer_eq_ok_iff, Numeral]
  constructor
  . rintro ⟨text, hmem, n, hi, hdecimal⟩
    exact ⟨n, hi, text, hmem, hdecimal⟩
  . rintro ⟨n, hi, text, hmem, hdecimal⟩
    exact ⟨text, hmem, n, hi, hdecimal⟩

theorem integer?_eq_ok_iff (h : Accepted l) (hjson : name ≠ "json") {id : Option Integer} :
    (values l).integer? name = .ok id
      ↔ ∃ n : Option Nat, id = n.map (fun (n : Nat) => .bigint n) ∧ Numeral? l name n := by
  unfold Options.integer?
  split
  . next text htext =>
    rw [optional_eq_some_iff h hjson] at htext
    simp only [Except.bind_eq_ok_iff, Except.pure_eq_ok_iff]
    constructor
    . rintro ⟨text', hrequired, i, hinteger, hid⟩
      obtain ⟨n, rfl, hn⟩ := (numeral_iff h hjson).mp ⟨text', hrequired, hinteger⟩
      exact ⟨some n, hid.symm, hn⟩
    . rintro ⟨n, hid, hn⟩
      cases n with
      | none => exact absurd htext (hn text)
      | some n =>
        obtain ⟨text', hrequired, hinteger⟩ := (numeral_iff h hjson).mpr ⟨n, rfl, hn⟩
        exact ⟨text', hrequired, n, hinteger, hid.symm⟩
  . next htext =>
    have hnone : ∀ text, .pair name text ∉ l := by
      intro text hmem
      rw [← optional_eq_some_iff h hjson, htext] at hmem
      cases hmem
    rw [Except.pure_eq_ok_iff]
    constructor
    . intro hid
      exact ⟨none, hid.symm, hnone⟩
    . rintro ⟨n, hid, hn⟩
      cases n with
      | none => exact hid.symm
      | some n =>
        obtain ⟨text, hmem, -⟩ := hn
        exact absurd hmem (hnone text)

-- A command has one space, so that it can be split in one way.
theorem eq_of_command {group action : String} (group' action' : String)
    (h : group ++ " " ++ action = group' ++ " " ++ action') (hgroup : ' ' ∉ group'.toList)
    (haction : ' ' ∉ action'.toList) : group = group' ∧ action = action' := by
  have hlist : group.toList ++ ' ' :: action.toList = group'.toList ++ ' ' :: action'.toList := by
    have hlist := congrArg String.toList h
    simpa using hlist
  have hcount := congrArg (List.count ' ') hlist
  rw [List.count_append, List.count_cons_self, List.count_append, List.count_cons_self,
    List.count_eq_zero.mpr hgroup, List.count_eq_zero.mpr haction] at hcount
  have hfree : ' ' ∉ group.toList := by
    rw [← List.count_eq_zero]
    omega
  have hsplit : Text.splitOnce [' '] (group.toList ++ ' ' :: action.toList)
      = some (group.toList, action.toList) := Text.splitOnce_append hfree
  have hsplit' : Text.splitOnce [' '] (group'.toList ++ ' ' :: action'.toList)
      = some (group'.toList, action'.toList) := Text.splitOnce_append hgroup
  rw [hlist, hsplit', Option.some.injEq, Prod.mk.injEq] at hsplit
  exact ⟨(String.toList_inj.mp hsplit.1).symm, (String.toList_inj.mp hsplit.2).symm⟩

theorem commands_of_method (h : Accepted l) {date : String → Date} {group action : String}
    {method : Method Pubkey} (hmethod : (values l).method date (group ++ " " ++ action) = .ok method) :
    Commands date l group action method := by
  have hrequired {name text : String} (hjson : name ≠ "json")
      (hok : (values l).required name = .ok text) : .pair name text ∈ l :=
    (required_eq_ok_iff h hjson).mp hok
  have hgiven {name : String} (hjson : name ≠ "json") : Given l name ((values l).optional name) :=
    (given_iff h hjson).mpr rfl
  unfold Options.method at hmethod
  split at hmethod
  . next hcommand =>
    obtain ⟨rfl, rfl⟩ := eq_of_command "escrow" "create" hcommand (by decide) (by decide)
    simp only [Except.bind_eq_ok_iff, Except.pure_eq_ok_iff] at hmethod
    obtain ⟨recipient, hrecipient, mint, hmint, amount, hamount, i, hi, expiresAt, hexpires, time, htime,
      id, hid, rfl⟩ := hmethod
    obtain ⟨n, rfl, hn⟩ := (numeral_iff h (by decide)).mp ⟨amount, hamount, hi⟩
    obtain ⟨id, rfl, hnumeral⟩ := (integer?_eq_ok_iff h (by decide)).mp hid
    exact .createEscrow (hrequired (by decide) hrecipient) (hrequired (by decide) hmint) hn
      (hrequired (by decide) hexpires) (expiry_eq_ok_iff.mp htime) hnumeral (hgiven (by decide))
  . next hcommand =>
    obtain ⟨rfl, rfl⟩ := eq_of_command "escrow" "release" hcommand (by decide) (by decide)
    simp only [Except.bind_eq_ok_iff, Except.pure_eq_ok_iff] at hmethod
    obtain ⟨id, hid, i, hi, rfl⟩ := hmethod
    obtain ⟨n, rfl, hn⟩ := (numeral_iff h (by decide)).mp ⟨id, hid, hi⟩
    exact .releaseEscrow hn (hgiven (by decide)) (hgiven (by decide))
  . next hcommand =>
    obtain ⟨rfl, rfl⟩ := eq_of_command "escrow" "refund" hcommand (by decide) (by decide)
    simp only [Except.bind_eq_ok_iff, Except.pure_eq_ok_iff] at hmethod
    obtain ⟨escrow, hescrow, id, hid, i, hi, rfl⟩ := hmethod
    obtain ⟨n, rfl, hn⟩ := (numeral_iff h (by decide)).mp ⟨id, hid, hi⟩
    exact .refundEscrow (hrequired (by decide) hescrow) hn (hgiven (by decide))
  . next hcommand =>
    obtain ⟨rfl, rfl⟩ := eq_of_command "vault" "create" hcommand (by decide) (by decide)
    simp only [Except.bind_eq_ok_iff, Except.pure_eq_ok_iff] at hmethod
    obtain ⟨guardian, hguardian, id, hid, rfl⟩ := hmethod
    obtain ⟨id, rfl, hnumeral⟩ := (integer?_eq_ok_iff h (by decide)).mp hid
    exact .createVault (hrequired (by decide) hguardian) hnumeral
  . next hcommand =>
    obtain ⟨rfl, rfl⟩ := eq_of_command "vault" "register-asset" hcommand (by decide) (by decide)
    simp only [Except.bind_eq_ok_iff, Except.pure_eq_ok_iff] at hmethod
    obtain ⟨vault, hvault, mint, hmint, rfl⟩ := hmethod
    exact .registerAsset (hrequired (by decide) hvault) (hrequired (by decide) hmint)
  . next hcommand =>
    obtain ⟨rfl, rfl⟩ := eq_of_command "vault" "deposit" hcommand (by decide) (by decide)
    simp only [Except.bind_eq_ok_iff, Except.pure_eq_ok_iff] at hmethod
    obtain ⟨vault, hvault, mint, hmint, amount, hamount, i, hi, rfl⟩ := hmethod
    obtain ⟨n, rfl, hn⟩ := (numeral_iff h (by decide)).mp ⟨amount, hamount, hi⟩
    exact .deposit (hrequired (by decide) hvault) (hrequired (by decide) hmint) hn (hgiven (by decide))
  . next hcommand =>
    obtain ⟨rfl, rfl⟩ := eq_of_command "withdrawal" "request" hcommand (by decide) (by decide)
    simp only [Except.bind_eq_ok_iff, Except.pure_eq_ok_iff] at hmethod
    obtain ⟨vault, hvault, mint, hmint, recipient, hrecipient, amount, hamount, i, hi, rfl⟩ := hmethod
    obtain ⟨n, rfl, hn⟩ := (numeral_iff h (by decide)).mp ⟨amount, hamount, hi⟩
    exact .requestWithdrawal (hrequired (by decide) hvault) (hrequired (by decide) hmint)
      (hrequired (by decide) hrecipient) hn (hgiven (by decide))
  . cases hmethod

theorem method_of_commands (h : Accepted l) {date : String → Date} {group action : String}
    {method : Method Pubkey} (hcommands : Commands date l group action method) :
    (values l).method date (group ++ " " ++ action) = .ok method := by
  have hrequired {name text : String} (hjson : name ≠ "json") (hmem : .pair name text ∈ l) :
      (values l).required name = .ok text :=
    (required_eq_ok_iff h hjson).mpr hmem
  have hnumeral {name : String} {n : Nat} (hjson : name ≠ "json") (hn : Numeral l name n) :
      ∃ text, (values l).required name = .ok text ∧ integer text name = .ok (n : Int) :=
    (numeral_iff h hjson).mpr ⟨n, rfl, hn⟩
  cases hcommands with
  | createEscrow hrecipient hmint hamount hexpires htime hid hsource =>
    show (values l).method date "escrow create" = _
    obtain ⟨text, htext, hinteger⟩ := hnumeral (by decide) hamount
    rw [given_iff h (by decide)] at hsource
    simp only [Options.method, Except.bind_eq_ok_iff, Except.pure_eq_ok_iff]
    exact ⟨_, hrequired (by decide) hrecipient, _, hrequired (by decide) hmint, text, htext, _,
      hinteger, _, hrequired (by decide) hexpires, _, expiry_eq_ok_iff.mpr htime, _,
      (integer?_eq_ok_iff h (by decide)).mpr ⟨_, rfl, hid⟩, by rw [hsource]⟩
  | releaseEscrow hid hescrow hdestination =>
    show (values l).method date "escrow release" = _
    obtain ⟨text, htext, hinteger⟩ := hnumeral (by decide) hid
    rw [given_iff h (by decide)] at hescrow hdestination
    simp only [Options.method, Except.bind_eq_ok_iff, Except.pure_eq_ok_iff]
    exact ⟨text, htext, _, hinteger, by rw [hescrow, hdestination]⟩
  | refundEscrow hescrow hid hdestination =>
    show (values l).method date "escrow refund" = _
    obtain ⟨text, htext, hinteger⟩ := hnumeral (by decide) hid
    rw [given_iff h (by decide)] at hdestination
    simp only [Options.method, Except.bind_eq_ok_iff, Except.pure_eq_ok_iff]
    exact ⟨_, hrequired (by decide) hescrow, text, htext, _, hinteger, by rw [hdestination]⟩
  | createVault hguardian hid =>
    show (values l).method date "vault create" = _
    simp only [Options.method, Except.bind_eq_ok_iff, Except.pure_eq_ok_iff]
    exact ⟨_, hrequired (by decide) hguardian, _, (integer?_eq_ok_iff h (by decide)).mpr ⟨_, rfl, hid⟩,
      rfl⟩
  | registerAsset hvault hmint =>
    show (values l).method date "vault register-asset" = _
    simp only [Options.method, Except.bind_eq_ok_iff, Except.pure_eq_ok_iff]
    exact ⟨_, hrequired (by decide) hvault, _, hrequired (by decide) hmint, rfl⟩
  | deposit hvault hmint hamount hsource =>
    show (values l).method date "vault deposit" = _
    obtain ⟨text, htext, hinteger⟩ := hnumeral (by decide) hamount
    rw [given_iff h (by decide)] at hsource
    simp only [Options.method, Except.bind_eq_ok_iff, Except.pure_eq_ok_iff]
    exact ⟨_, hrequired (by decide) hvault, _, hrequired (by decide) hmint, text, htext, _, hinteger,
      by rw [hsource]⟩
  | requestWithdrawal hvault hmint hrecipient hamount htoken =>
    show (values l).method date "withdrawal request" = _
    obtain ⟨text, htext, hinteger⟩ := hnumeral (by decide) hamount
    rw [given_iff h (by decide)] at htoken
    simp only [Options.method, Except.bind_eq_ok_iff, Except.pure_eq_ok_iff]
    exact ⟨_, hrequired (by decide) hvault, _, hrequired (by decide) hmint, _,
      hrequired (by decide) hrecipient, text, htext, _, hinteger, by rw [htoken]⟩

theorem method_eq_ok_iff (h : Accepted l) {date : String → Date} {group action : String}
    {method : Method Pubkey} :
    (values l).method date (group ++ " " ++ action) = .ok method
      ↔ Commands date l group action method :=
  ⟨commands_of_method h, method_of_commands h⟩

end Meaning

end IronVault.Client.Cli
