import IronVault.Client.Impl.Pdas

/-!
This module contains what the encodings of the client mean: which bytes a part of a buffer has, when
a number is accepted and which bytes it gives.
-/

namespace IronVault.Client

section Buffer

theorem subarray_append_left {front back : List UInt8} {start stop : Nat}
    (h : stop ≤ front.length) : subarray (front ++ back) start stop = subarray front start stop := by
  unfold subarray
  rw [List.take_append_of_le_length h]

theorem subarray_append_right {front back : List UInt8} {start stop : Nat}
    (h : front.length ≤ start) :
    subarray (front ++ back) start stop =
      subarray back (start - front.length) (stop - front.length) := by
  unfold subarray
  rw [List.take_append, List.drop_append, List.length_take]
  by_cases hstop : front.length ≤ stop
  . rw [List.drop_eq_nil_of_le (by simp; omega), List.nil_append, Nat.min_eq_right hstop]
  . have hempty : stop - front.length = 0 := by omega
    rw [hempty]
    simp
    omega

theorem subarray_all {bytes : List UInt8} {stop : Nat} (h : bytes.length = stop) :
    subarray bytes 0 stop = bytes := by
  subst h
  simp [subarray]

theorem drop_eq_subarray_append {bytes : List UInt8} (start stop : Nat) (h : start ≤ stop)
    (hlength : stop ≤ bytes.length) :
    bytes.drop start = subarray bytes start stop ++ bytes.drop stop := by
  unfold subarray
  rw [← List.drop_append_of_le_length (by rw [List.length_take]; omega), List.take_append_drop]

theorem ofBuffer_eq_ok {PublicKey : Type} [Borsh PublicKey] {bytes : List UInt8}
    {key : PublicKey} : ofBuffer bytes = .ok key ↔ bytes = Borsh.serialize key := by
  unfold ofBuffer
  rw [fetch_eq_ok, Borsh.tryFromSlice_eq_some]

theorem readBigUInt64LE_eq_ok {bytes : List UInt8} {offset : Nat} {n : Int}
    (h : readBigUInt64LE bytes offset = .ok n) :
    ∃ value : UInt64, n = value.toNat ∧
      subarray bytes offset (offset + 8) = Borsh.serialize value := by
  unfold readBigUInt64LE at h
  split at h
  . next hlength =>
    rw [Except.ok.injEq] at h
    have hsize : (subarray bytes offset (offset + 8)).length = 8 := by
      unfold subarray
      rw [List.length_drop, List.length_take]
      omega
    have hlt := Borsh.ofLittleEndian_lt (subarray bytes offset (offset + 8))
    have hbytes := Borsh.toLittleEndian_ofLittleEndian (subarray bytes offset (offset + 8))
    rw [hsize] at hlt hbytes
    refine ⟨UInt64.ofNat (Borsh.ofLittleEndian (subarray bytes offset (offset + 8))), ?_, ?_⟩
    . rw [UInt64.toNat_ofNat_of_lt' hlt, h]
    . simp only [Borsh.serialize]
      rw [UInt64.toNat_ofNat_of_lt' hlt, hbytes]
  . simp at h

end Buffer

section Number

theorem encodeU64_eq_ok {value : Int} {field : String} {bytes : List UInt8} :
    encodeU64 value field = .ok bytes ↔
      ∃ n : UInt64, value = n.toNat ∧ bytes = Borsh.serialize n := by
  have hmax : u64Max = 2 ^ 64 - 1 := by decide
  unfold encodeU64
  split
  . next h =>
    simp only [reduceCtorEq, false_iff, not_exists, not_and]
    intro n hn
    have hlt := n.toNat_lt
    omega
  . next h =>
    have hlt : value.toNat < 2 ^ 64 := by omega
    rw [Except.ok.injEq]
    constructor
    . rintro rfl
      refine ⟨UInt64.ofNat value.toNat, ?_, ?_⟩
      . rw [UInt64.toNat_ofNat_of_lt' hlt]
        omega
      . simp only [Borsh.serialize, writeBigUInt64LE, UInt64.toNat_ofNat_of_lt' hlt]
    . rintro ⟨n, rfl, rfl⟩
      rfl

theorem encodeU64_toNat (n : UInt64) (field : String) :
    encodeU64 n.toNat field = .ok (Borsh.serialize n) :=
  encodeU64_eq_ok.mpr ⟨n, rfl, rfl⟩

theorem writeBigInt64LE_toInt (n : Int64) : writeBigInt64LE n.toInt = Borsh.serialize n := by
  have hmod : (n.toInt % 2 ^ 64).toNat = n.toUInt64.toNat := by
    have hlt := n.toUInt64.toNat_lt
    have hcond : n.toInt = if 2 * n.toUInt64.toNat < 2 ^ 64 then (n.toUInt64.toNat : Int)
        else n.toUInt64.toNat - 2 ^ 64 := n.toBitVec.toInt_eq_toNat_cond
    split at hcond <;> omega
  unfold writeBigInt64LE
  rw [hmod]
  rfl

theorem encodeI64_eq_ok {value : Int} {field : String} {bytes : List UInt8} :
    encodeI64 value field = .ok bytes ↔
      ∃ n : Int64, value = n.toInt ∧ bytes = Borsh.serialize n := by
  have hmin : i64Min = -2 ^ 63 := by decide
  have hmax : i64Max = 2 ^ 63 - 1 := by decide
  unfold encodeI64
  split
  . next h =>
    simp only [reduceCtorEq, false_iff, not_exists, not_and]
    intro n hn
    have hle := n.le_toInt
    have hlt := n.toInt_lt
    omega
  . next h =>
    rw [Except.ok.injEq]
    constructor
    . rintro rfl
      have hvalue : (Int64.ofInt value).toInt = value := by
        rw [Int64.toInt_ofInt_of_le] <;> omega
      refine ⟨Int64.ofInt value, hvalue.symm, ?_⟩
      rw [← writeBigInt64LE_toInt, hvalue]
    . rintro ⟨n, rfl, rfl⟩
      exact writeBigInt64LE_toInt n

/--
The integer that a caller means: that of a `bigint` or a `number`, and the whole seconds before a
`Date`.
-/
inductive Timestamp.Denotes : Timestamp → Int → Prop where
  | bigint {n : Int} : Denotes (.integer (.bigint n)) n
  | number {n : Int} : Denotes (.integer (.number (.finite n))) n
  | date {d : Date} {t n : Int} (htime : d.time = some t) (hle : n * 1000 ≤ t)
      (hlt : t < (n + 1) * 1000) : Denotes (.date d) n

theorem Timestamp.Denotes.unique {value : Timestamp} {m n : Int} (hm : value.Denotes m)
    (hn : value.Denotes n) : m = n := by
  cases hm with
  | bigint =>
    cases hn
    rfl
  | number =>
    generalize hvalue : Timestamp.integer (.number (.finite (m : ℚ))) = value at hn
    cases hn with
    | number =>
      injection hvalue with hvalue
      injection hvalue with hvalue
      injection hvalue with hvalue
      exact_mod_cast hvalue
    | _ => simp at hvalue
  | date htime hle hlt =>
    cases hn with
    | date htime' hle' hlt' =>
      rw [htime, Option.some.injEq] at htime'
      subst htime'
      omega

theorem bigInt_intCast (n : Int) : bigInt (.finite n) = .ok n := by
  simp [bigInt]

theorem bigInt_eq_ok {x : Double} {n : Int} : bigInt x = .ok n ↔ x = .finite n := by
  cases x with
  | finite value =>
    simp only [bigInt]
    constructor
    . intro h
      split at h
      . next hden =>
        rw [Except.ok.injEq] at h
        rw [← h, Rat.coe_int_num_of_den_eq_one hden]
      . simp at h
    . intro h
      cases h
      simp
  | _ => simp [bigInt]

/--
The quotient is rounded to a double before it is rounded down, which does not change the result.
-/
theorem floor_divide_getTime {d : Date} {t : Int} (htime : d.time = some t) :
    (divide d.getTime 1000).floor = .finite ((t / 1000 : Int) : ℚ) := by
  have hle := d.time_le t htime
  have hbound : |(t : ℚ) / (1000 : Nat)| < 2 ^ 43 := by
    rw [abs_div, div_lt_iff₀ (by norm_num)]
    have habs : |t| ≤ 8640000000000000 := by
      rw [Int.abs_eq_natAbs]
      exact_mod_cast hle
    have habs' : |(t : ℚ)| ≤ 8640000000000000 := by exact_mod_cast habs
    norm_num
    linarith
  have hfloor := Double.floor_round_div (by norm_num) (by norm_num) (by norm_num) hbound
    (by norm_num)
  simp only [Date.getTime, htime, divide, Double.floor, hfloor]
  rfl

theorem toBigInt_denotes {value : Timestamp} {field : String} {n : Int}
    (h : toBigInt value field = .ok n) : value.Denotes n := by
  unfold toBigInt at h
  split at h
  . next d =>
    cases htime : d.time with
    | none => simp [Date.getTime, htime, divide, Double.floor, bigInt] at h
    | some t =>
      rw [floor_divide_getTime htime, bigInt_intCast, Except.ok.injEq] at h
      subst h
      exact .date htime (by omega) (by omega)
  . split at h
    . simp at h
    . rw [bigInt_eq_ok] at h
      subst h
      exact .number
  . rw [Except.ok.injEq] at h
    subst h
    exact .bigint

end Number

end IronVault.Client
