import IronVault.Client.Basic

/-!
This module contains the encodings of the client: numbers, discriminators and instruction data, and
the parts of `Buffer` that they and the account readers use.
-/

namespace IronVault.Client

section Buffer

def subarray (data : List UInt8) (start stop : Nat) : List UInt8 :=
  (data.take stop).drop start

def readBigUInt64LE (data : List UInt8) (offset : Nat) : Except Exception Int :=
  if offset + 8 ≤ data.length then
    .ok (Borsh.ofLittleEndian (subarray data offset (offset + 8)))
  else
    .error .external

def writeBigUInt64LE (value : Int) : List UInt8 :=
  Borsh.toLittleEndian 8 value.toNat

def writeBigInt64LE (value : Int) : List UInt8 :=
  -- Two's complement.
  Borsh.toLittleEndian 8 (value % 2 ^ 64).toNat

end Buffer

def u64Max : Int := (1 <<< 64) - 1
def i64Min : Int := -(1 <<< 63)
def i64Max : Int := (1 <<< 63) - 1

def encodeU64 (value : Int) (field : String) : Except Exception (List UInt8) :=
  if value < 0 ∨ value > u64Max then
    .error (.rangeError (field ++ " must fit in u64"))
  else
    .ok (writeBigUInt64LE value)

def encodeI64 (value : Int) (field : String) : Except Exception (List UInt8) :=
  if value < i64Min ∨ value > i64Max then
    .error (.rangeError (field ++ " must fit in i64"))
  else
    .ok (writeBigInt64LE value)

def bigInt : Double → Except Exception Int
  -- `BigInt(value)` throws unless the value is an integer.
  | .finite value => if value.den = 1 then .ok value.num else .error .external
  | _ => .error .external

def Date.getTime (date : Date) : Double :=
  match date.time with
  | some t => .finite t
  | none => .nan

def divide (x : Double) (divisor : Nat) : Double :=
  -- The divisor is positive, so the quotient is not larger than `x`.
  match x with
  | .finite value => .finite (Double.round (value / divisor))
  | x => x

def toBigInt (value : Timestamp) (field : String) : Except Exception Int :=
  match value with
  | .date date => bigInt (divide date.getTime 1000).floor
  | .integer (.number value) =>
    if !value.isSafeInteger then
      .error (.rangeError (field ++ " must be a safe integer"))
    else
      bigInt value
  | .integer (.bigint value) => .ok value

section

variable {PublicKey : Type} [Borsh PublicKey] [Web3 PublicKey]

open Web3

variable (PublicKey) in
def anchorDiscriminator (namespaceName name : String) : List UInt8 :=
  subarray (sha256 PublicKey (namespaceName ++ ":" ++ name)).toList 0 8

variable (PublicKey) in
def instructionData (name : String) (fields : List (List UInt8)) : List UInt8 :=
  anchorDiscriminator PublicKey "global" name ++ fields.flatten

def randomU64 (randomBytes : Vector UInt8 8) : Int :=
  Borsh.ofLittleEndian randomBytes.toList

def toBuffer (key : PublicKey) : List UInt8 :=
  Borsh.serialize key

def ofBuffer (bytes : List UInt8) : Except Exception PublicKey :=
  fetch (Borsh.tryFromSlice bytes) .external

def asPublicKey : Address PublicKey → Except Exception PublicKey
  | .publicKey key => .ok key
  | .string text => fetch (ofBase58 text) .external

end

end IronVault.Client
