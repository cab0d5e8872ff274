import Mathlib.Tactic.DeriveEncodable
import IronVault.Client.Impl.Session
import IronVault.Client.Layout
import IronVault.Program.Symbolic

/-!
This module contains the client on the symbolic ledger, where keys are terms: their bytes, and the
derivation of addresses from bytes.
-/

namespace IronVault

instance encodableUInt64 : Encodable UInt64 :=
  .ofLeftInjection UInt64.toNat (fun n => some (UInt64.ofNat n)) (by simp)

deriving instance Encodable for Key

namespace Key

def readOnes : List UInt8 → Option (Nat × List UInt8)
  | [] => none
  | byte :: rest =>
    if byte = 0 then some (0, rest)
    else if byte = 1 then (readOnes rest).map fun (n, rest) => (n + 1, rest)
    else none

theorem readOnes_replicate (n : Nat) (rest : List UInt8) :
    readOnes (List.replicate n 1 ++ 0 :: rest) = some (n, rest) := by
  induction n with
  | zero => rfl
  | succ n ih => simp [List.replicate_succ, readOnes, ih]

theorem eq_of_readOnes {bytes rest : List UInt8} {n : Nat} (h : readOnes bytes = some (n, rest)) :
    bytes = List.replicate n 1 ++ 0 :: rest := by
  induction bytes generalizing n with
  | nil => simp [readOnes] at h
  | cons byte bytes ih =>
    unfold readOnes at h
    split at h
    . next hzero =>
      cases h
      rw [hzero]
      rfl
    . split at h
      . next hone =>
        rw [Option.map_eq_some_iff] at h
        obtain ⟨⟨m, rest'⟩, hread, heq⟩ := h
        cases heq
        rw [hone, ih hread, List.replicate_succ]
        rfl
      . simp at h

/--
The number of the term in unary notation. Terms have no bound, so their bytes have none either.
-/
instance : Borsh Key where
  serialize key := List.replicate (Encodable.encode key) 1 ++ [0]
  deserialize bytes := do
    let (n, rest) ← readOnes bytes
    let key ← Encodable.decode₂ Key n
    return (key, rest)
  deserialize_append key rest := by
    simp [readOnes_replicate]
  eq_append {bytes rest value} h := by
    simp only [Option.bind_eq_bind, Option.bind_eq_some_iff, Option.pure_def, Option.some.injEq,
      Prod.mk.injEq, Prod.exists] at h
    obtain ⟨n, rest', hread, key, hkey, rfl, rfl⟩ := h
    rw [eq_of_readOnes hread, ← Encodable.mem_decode₂.mp hkey]
    simp

def ofBuffer (bytes : List UInt8) : Key :=
  (Borsh.tryFromSlice bytes).getD (.wallet 0)

def idOfBuffer (bytes : List UInt8) : UInt64 :=
  (Borsh.tryFromSlice bytes).getD 0

@[simp]
theorem ofBuffer_serialize (key : Key) : ofBuffer (Borsh.serialize key) = key := by
  unfold ofBuffer
  rw [Borsh.tryFromSlice_eq_some.mpr rfl]
  rfl

@[simp]
theorem idOfBuffer_serialize (id : UInt64) : idOfBuffer (Borsh.serialize id) = id := by
  unfold idOfBuffer
  rw [Borsh.tryFromSlice_eq_some.mpr rfl]
  rfl

open Client in
def findProgramAddressSync (seeds : List (List UInt8)) (programId : Key) : Key :=
  -- The associated token program is the wallet 21.
  if programId = .wallet 21 then .wallet 22
  else
    match seeds with
    | [_] => .protocol
    | [_, first] => .escrowToken (ofBuffer first)
    | [name, first, second] =>
      if name = utf8 "escrow" then .escrow (ofBuffer first) (idOfBuffer second)
      else if name = utf8 "vault" then .vault (ofBuffer first) (idOfBuffer second)
      else if name = utf8 "vault_asset" then .vaultAsset (ofBuffer first) (ofBuffer second)
      else if name = utf8 "vault_token" then .vaultToken (ofBuffer first) (ofBuffer second)
      else if name = utf8 "role" then .role (ofBuffer first) (ofBuffer second)
      else .withdrawal (ofBuffer first) (idOfBuffer second)
    | _ => .wallet 0

instance : Client.Web3 Key where
  sha256 text := Client.Scenario.bytes32 ((Client.Scenario.digests.lookup text).getD 0)
  findProgramAddressSync
  ofBase58 _ := none
  toBase58 _ := ""
  systemProgramId := .wallet 19
  sysvarClockPubkey := .wallet 20
  tokenProgramAddress := .wallet 1
  token2022ProgramAddress := .wallet 2
  associatedTokenProgramAddress := .wallet 21

theorem derivesAddresses {programId : Key} (h : programId ≠ .wallet 21) :
    Client.DerivesAddresses programId := by
  intro seeds
  simp only [Client.Web3.findProgramAddressSync, findProgramAddressSync, if_neg h]
  cases seeds with
  | protocol => rfl
  | escrow maker escrowId =>
    simp only [Client.seedBuffers]
    rw [if_pos trivial, ofBuffer_serialize, idOfBuffer_serialize]
    rfl
  | escrowToken escrow =>
    simp only [Client.seedBuffers]
    rw [ofBuffer_serialize]
    rfl
  | vault authority vaultId =>
    simp only [Client.seedBuffers]
    rw [if_neg (by decide +kernel), if_pos trivial, ofBuffer_serialize, idOfBuffer_serialize]
    rfl
  | vaultAsset vault mint =>
    simp only [Client.seedBuffers]
    rw [if_neg (by decide +kernel), if_neg (by decide +kernel), if_pos trivial, ofBuffer_serialize,
      ofBuffer_serialize]
    rfl
  | vaultToken vault mint =>
    simp only [Client.seedBuffers]
    rw [if_neg (by decide +kernel), if_neg (by decide +kernel), if_neg (by decide +kernel),
      if_pos trivial, ofBuffer_serialize, ofBuffer_serialize]
    rfl
  | role vault principal =>
    simp only [Client.seedBuffers]
    rw [if_neg (by decide +kernel), if_neg (by decide +kernel), if_neg (by decide +kernel),
      if_neg (by decide +kernel), if_pos trivial, ofBuffer_serialize, ofBuffer_serialize]
    rfl
  | withdrawal vault withdrawalId =>
    simp only [Client.seedBuffers]
    rw [if_neg (by decide +kernel), if_neg (by decide +kernel), if_neg (by decide +kernel),
      if_neg (by decide +kernel), if_neg (by decide +kernel), ofBuffer_serialize,
      idOfBuffer_serialize]
    rfl

end Key
end IronVault
