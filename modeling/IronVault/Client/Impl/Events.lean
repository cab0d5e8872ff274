import IronVault.Util.Text
import IronVault.Client.Impl.Encoding

/-!
This module contains how the client recognizes an event in a log message. It leaves the fields of the
event encoded.
-/

namespace IronVault.Client

def hex (bytes : List UInt8) : Text :=
  bytes.flatMap fun byte => [Nat.digitChar (byte.toNat / 16), Nat.digitChar (byte.toNat % 16)]

def readUInt16LE (data : List UInt8) (offset : Nat) : Except Exception Nat :=
  if offset + 2 ≤ data.length then
    .ok (Borsh.ofLittleEndian (subarray data offset (offset + 2)))
  else
    .error .external

def ironVaultEventNames : List String := [
  "ProtocolInitialized", "ProtocolPauseUpdated", "EscrowCreated", "EscrowReleased",
  "EscrowRefunded", "VaultCreated", "VaultAuthorityUpdated", "VaultPauseUpdated",
  "VaultAssetRegistered", "VaultDeposit", "VaultWithdrawal", "RoleGranted", "RoleRevoked",
  "VaultLimitsUpdated", "WithdrawalRequested", "WithdrawalExecuted", "WithdrawalCancelled"
]

structure IronVaultEventEnvelope where
  name : String
  version : Nat
  payload : List UInt8
  deriving DecidableEq, Repr

section

variable (PublicKey : Type) [Web3 PublicKey]

def ironVaultEventDiscriminator (name : String) : Text :=
  hex (anchorDiscriminator PublicKey "event" name)

def identifyIronVaultEvent (data : List UInt8) : Option String :=
  ironVaultEventNames.find? fun name =>
    ironVaultEventDiscriminator PublicKey name = hex (subarray data 0 8)

def decodeIronVaultEventEnvelope (data : List UInt8) : Except Exception IronVaultEventEnvelope := do
  if data.length < 10 then
    throw (.error "IronVault event data is truncated")
  let name ← fetch (identifyIronVaultEvent PublicKey data)
    (.error "unknown IronVault event discriminator")
  let version ← readUInt16LE data 8
  return { name, version, payload := data.drop 10 }

def decodeIronVaultEventLog (bufferFrom : Text → List UInt8) (log : Text) :
    Except Exception (Option IronVaultEventEnvelope) :=
  match Text.stripPrefix "Program data: ".toList log with
  | none => .ok none
  | some encoded => do
    let envelope ← decodeIronVaultEventEnvelope PublicKey (bufferFrom encoded)
    return some envelope

end

end IronVault.Client
