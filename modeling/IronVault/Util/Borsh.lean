import Mathlib.Algebra.Order.Ring.Int

/-!
This module contains the part of the Borsh format that fixed-width records need. A type has a writer
and a reader that stops behind the value, and the two laws say that the reader accepts exactly what
the writer writes.
-/

class Borsh (α : Type) where
  serialize : α → List UInt8
  deserialize : List UInt8 → Option (α × List UInt8)
  deserialize_append (value : α) (rest : List UInt8) :
    deserialize (serialize value ++ rest) = some (value, rest)
  eq_append {bytes rest : List UInt8} {value : α} :
    deserialize bytes = some (value, rest) → bytes = serialize value ++ rest

namespace Borsh

variable {α β : Type}

def tryFromSlice [Borsh α] (bytes : List UInt8) : Option α :=
  -- Nothing may be left over.
  match deserialize bytes with
  | some (value, []) => some value
  | _ => none

theorem tryFromSlice_eq_some [Borsh α] {bytes : List UInt8} {value : α} :
    tryFromSlice bytes = some value ↔ bytes = serialize value := by
  unfold tryFromSlice
  constructor
  . intro h
    split at h
    . next value' hbytes =>
      rw [Option.some.injEq] at h
      rw [eq_append hbytes, List.append_nil, h]
    . simp at h
  . rintro rfl
    have hread := deserialize_append value []
    rw [List.append_nil] at hread
    rw [hread]

theorem serialize_injective [Borsh α] : Function.Injective (serialize : α → List UInt8) := by
  intro value value' h
  have hread := tryFromSlice_eq_some.mpr h
  rw [tryFromSlice_eq_some.mpr rfl, Option.some.injEq] at hread
  exact hread

def read (count : Nat) (bytes : List UInt8) : Option (List UInt8 × List UInt8) :=
  if count ≤ bytes.length then some (bytes.take count, bytes.drop count) else none

theorem read_append {count : Nat} {bytes rest : List UInt8} (h : bytes.length = count) :
    read count (bytes ++ rest) = some (bytes, rest) := by
  subst h
  simp [read]

theorem read_eq_some {count : Nat} {bytes value rest : List UInt8}
    (h : read count bytes = some (value, rest)) : value.length = count ∧ bytes = value ++ rest := by
  simp only [read, Option.ite_none_right_eq_some, Option.some.injEq, Prod.mk.injEq] at h
  obtain ⟨hle, rfl, rfl⟩ := h
  exact ⟨List.length_take_of_le hle, (List.take_append_drop count bytes).symm⟩

section LittleEndian

def toLittleEndian : Nat → Nat → List UInt8
  | 0, _ => []
  | count + 1, n => UInt8.ofNat n :: toLittleEndian count (n / 256)

def ofLittleEndian : List UInt8 → Nat
  | [] => 0
  | byte :: bytes => byte.toNat + 256 * ofLittleEndian bytes

@[simp]
theorem length_toLittleEndian (count n : Nat) : (toLittleEndian count n).length = count := by
  induction count generalizing n with
  | zero => rfl
  | succ count ih => simp [toLittleEndian, ih]

theorem ofLittleEndian_toLittleEndian {count n : Nat} (h : n < 256 ^ count) :
    ofLittleEndian (toLittleEndian count n) = n := by
  induction count generalizing n with
  | zero =>
    rw [Nat.pow_zero, Nat.lt_one_iff] at h
    rw [h]
    rfl
  | succ count ih =>
    have hdiv : n / 256 < 256 ^ count := by
      rw [Nat.pow_succ] at h
      exact Nat.div_lt_of_lt_mul (by rwa [Nat.mul_comm])
    simp only [toLittleEndian, ofLittleEndian, ih hdiv, UInt8.toNat_ofNat']
    exact Nat.mod_add_div n 256

theorem ofLittleEndian_lt (bytes : List UInt8) : ofLittleEndian bytes < 256 ^ bytes.length := by
  induction bytes with
  | nil => simp [ofLittleEndian]
  | cons byte bytes ih =>
    have hbyte := byte.toNat_lt
    rw [List.length_cons, Nat.pow_succ, ofLittleEndian]
    omega

theorem toLittleEndian_ofLittleEndian (bytes : List UInt8) :
    toLittleEndian bytes.length (ofLittleEndian bytes) = bytes := by
  induction bytes with
  | nil => rfl
  | cons byte bytes ih =>
    have hbyte := byte.toNat_lt
    have hdiv : (byte.toNat + 256 * ofLittleEndian bytes) / 256 = ofLittleEndian bytes := by omega
    rw [List.length_cons, ofLittleEndian, toLittleEndian, hdiv, ih]
    congr 1
    apply UInt8.toNat_inj.mp
    rw [UInt8.toNat_ofNat']
    omega

@[reducible]
def integer (count : Nat) (toNat : α → Nat) (ofNat : Nat → α)
    (hlt : ∀ value, toNat value < 256 ^ count) (hofNat : ∀ value, ofNat (toNat value) = value)
    (htoNat : ∀ n, n < 256 ^ count → toNat (ofNat n) = n) : Borsh α where
  serialize value := toLittleEndian count (toNat value)
  deserialize bytes := (read count bytes).map fun (value, rest) => (ofNat (ofLittleEndian value), rest)
  deserialize_append value rest := by
    rw [read_append (length_toLittleEndian ..)]
    simp [ofLittleEndian_toLittleEndian (hlt value), hofNat]
  eq_append {bytes rest value} h := by
    rw [Option.map_eq_some_iff] at h
    obtain ⟨⟨value', rest'⟩, hread, heq⟩ := h
    obtain ⟨hlength, rfl⟩ := read_eq_some hread
    obtain ⟨rfl, rfl⟩ := Prod.mk.injEq .. ▸ heq
    have hvalue := ofLittleEndian_lt value'
    rw [hlength] at hvalue
    rw [htoNat _ hvalue, ← hlength, toLittleEndian_ofLittleEndian]

end LittleEndian

instance : Borsh UInt16 :=
  integer 2 UInt16.toNat UInt16.ofNat UInt16.toNat_lt (by simp) fun _ => UInt16.toNat_ofNat_of_lt'

instance : Borsh UInt32 :=
  integer 4 UInt32.toNat UInt32.ofNat UInt32.toNat_lt (by simp) fun _ => UInt32.toNat_ofNat_of_lt'

instance : Borsh UInt64 :=
  integer 8 UInt64.toNat UInt64.ofNat UInt64.toNat_lt (by simp) fun _ => UInt64.toNat_ofNat_of_lt'

instance : Borsh Int64 :=
  integer 8 (·.toUInt64.toNat) (UInt64.ofNat · |>.toInt64) (fun value => value.toUInt64.toNat_lt)
    (by simp) fun n h => by simpa using UInt64.toNat_ofNat_of_lt' h

/--
An enumeration without fields is the byte that numbers its variant.
-/
@[reducible]
def enum (variant : α → UInt8) (ofVariant : UInt8 → Option α)
    (hofVariant : ∀ value, ofVariant (variant value) = some value)
    (hvariant : ∀ byte value, ofVariant byte = some value → byte = variant value) : Borsh α where
  serialize value := [variant value]
  deserialize
    | [] => none
    | byte :: rest => (ofVariant byte).map fun value => (value, rest)
  deserialize_append value rest := by
    simp [hofVariant]
  eq_append {bytes rest value} h := by
    cases bytes with
    | nil => simp at h
    | cons byte bytes =>
      rw [Option.map_eq_some_iff] at h
      obtain ⟨value', hvalue, heq⟩ := h
      obtain ⟨rfl, rfl⟩ := Prod.mk.injEq .. ▸ heq
      rw [hvariant byte value' hvalue]
      rfl

instance : Borsh Unit where
  serialize _ := []
  deserialize bytes := some ((), bytes)
  deserialize_append _ _ := rfl
  eq_append h := congrArg Prod.snd (Option.some.inj h)

instance : Borsh UInt8 :=
  enum id some (fun _ => rfl) fun _ _ h => Option.some.inj h

instance : Borsh Bool where
  serialize
    | false => [0]
    | true => [1]
  deserialize
    | [] => none
    | byte :: rest =>
      if byte = 0 then some (false, rest)
      else if byte = 1 then some (true, rest)
      else none
  deserialize_append value rest := by cases value <;> rfl
  eq_append {bytes rest value} h := by
    cases bytes with
    | nil => simp at h
    | cons byte bytes =>
      dsimp only at h
      split at h
      . next hzero =>
        obtain ⟨rfl, rfl⟩ := Prod.mk.injEq .. ▸ Option.some.inj h
        rw [hzero]
        rfl
      . split at h
        . next hone =>
          obtain ⟨rfl, rfl⟩ := Prod.mk.injEq .. ▸ Option.some.inj h
          rw [hone]
          rfl
        . simp at h

instance (n : Nat) : Borsh (Vector UInt8 n) where
  serialize value := value.toList
  deserialize bytes :=
    if h : n ≤ bytes.length then
      some (⟨(bytes.take n).toArray, by simp [h]⟩, bytes.drop n)
    else
      none
  deserialize_append value rest := by
    have hlength : value.toList.length = n := by simp
    rw [dif_pos (by simp)]
    congr 2
    . apply Vector.toList_inj.mp
      simp
    . simp
  eq_append {bytes rest value} h := by
    split at h
    . obtain ⟨rfl, rfl⟩ := Prod.mk.injEq .. ▸ Option.some.inj h
      simp [Vector.toList]
    . simp at h

instance [Borsh α] [Borsh β] : Borsh (α × β) where
  serialize value := serialize value.1 ++ serialize value.2
  deserialize bytes := do
    let (first, rest) ← deserialize bytes
    let (second, rest) ← deserialize rest
    return ((first, second), rest)
  deserialize_append value rest := by
    simp [List.append_assoc, deserialize_append]
  eq_append {bytes rest value} h := by
    simp only [Option.bind_eq_bind, Option.bind_eq_some_iff, Option.pure_def, Option.some.injEq,
      Prod.mk.injEq, Prod.exists] at h
    obtain ⟨first, rest₁, hfirst, second, rest₂, hsecond, rfl, rfl⟩ := h
    rw [eq_append hfirst, eq_append hsecond, List.append_assoc]

@[reducible]
def struct [Borsh α] (fields : β → α) (mk : α → β) (hmk : ∀ value, mk (fields value) = value)
    (hfields : ∀ value, fields (mk value) = value) : Borsh β where
  serialize value := serialize (fields value)
  deserialize bytes := (deserialize bytes).map fun (value, rest) => (mk value, rest)
  deserialize_append value rest := by
    simp [deserialize_append, hmk]
  eq_append {bytes rest value} h := by
    rw [Option.map_eq_some_iff] at h
    obtain ⟨⟨value', rest'⟩, hread, heq⟩ := h
    obtain ⟨rfl, rfl⟩ := Prod.mk.injEq .. ▸ heq
    rw [hfields, eq_append hread]

theorem serialize_prod [Borsh α] [Borsh β] (first : α) (second : β) :
    serialize (first, second) = serialize first ++ serialize second := rfl

theorem congr_of_serialize_eq {γ : Type} [Borsh α] [Borsh β] {f : α → β → γ} {first first' : α}
    {second second' : β} (h : serialize (first, second) = serialize (first', second')) :
    f first second = f first' second' := by
  have heq := serialize_injective h
  rw [Prod.mk.injEq] at heq
  rw [heq.1, heq.2]

section Length

@[simp]
theorem length_serialize_uint8 (value : UInt8) : (serialize value).length = 1 := rfl

@[simp]
theorem length_serialize_uint64 (value : UInt64) : (serialize value).length = 8 :=
  length_toLittleEndian ..

@[simp]
theorem length_serialize_int64 (value : Int64) : (serialize value).length = 8 :=
  length_toLittleEndian ..

@[simp]
theorem length_serialize_bool (value : Bool) : (serialize value).length = 1 := by
  cases value <;> rfl

@[simp]
theorem length_serialize_vector {n : Nat} (value : Vector UInt8 n) : (serialize value).length = n :=
  value.length_toList

end Length
end Borsh
