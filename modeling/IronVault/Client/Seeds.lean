import IronVault.Client.Impl.Session
import IronVault.Client.Lemmas.Encoding
import IronVault.Program.Lemmas.Seeds

/-!
This module contains that the client derives the addresses of the program from the bytes that the
program derives them from, and that these bytes belong to one address only.
-/

namespace IronVault.Client

open Web3

def deriveAddress [Web3 (Vector UInt8 32)] (seeds : Seeds (Vector UInt8 32))
    (programId : Vector UInt8 32) : Except Exception (Vector UInt8 32) :=
  match seeds with
  | .protocol => .ok (deriveProtocolAddress programId)
  | .escrow maker escrowId => deriveEscrowAddress maker escrowId.toNat programId
  | .escrowToken escrow => .ok (deriveEscrowTokenAddress escrow programId)
  | .vault authority vaultId => deriveVaultAddress authority vaultId.toNat programId
  | .vaultAsset vault mint => .ok (deriveVaultAssetAddress vault mint programId)
  | .vaultToken vault mint => .ok (deriveVaultTokenAddress vault mint programId)
  | .role vault principal => .ok (deriveRoleAddress vault principal programId)
  | .withdrawal vault withdrawalId => deriveWithdrawalAddress vault withdrawalId.toNat programId

/--
The derivation hands `buffers` to web3.js, whatever web3.js makes of them.
-/
def DerivesFrom (seeds : Seeds (Vector UInt8 32)) (buffers : List (List UInt8)) : Prop :=
  ∀ [Web3 (Vector UInt8 32)] (programId : Vector UInt8 32),
    deriveAddress seeds programId = .ok (findProgramAddressSync buffers programId)

theorem seedBuffers_eq_seedBytes (seeds : Seeds (Vector UInt8 32)) :
    seedBuffers seeds = seedBytes seeds := by
  cases seeds with
  | protocol =>
    have hseed : utf8 "protocol" = protocolSeed := by decide +kernel
    rw [seedBuffers, seedBytes, hseed]
  | escrow maker escrowId =>
    have hseed : utf8 "escrow" = escrowSeed := by decide +kernel
    rw [seedBuffers, seedBytes, hseed]
    rfl
  | escrowToken escrow =>
    have hseed : utf8 "escrow_token" = escrowTokenSeed := by decide +kernel
    rw [seedBuffers, seedBytes, hseed]
    rfl
  | vault authority vaultId =>
    have hseed : utf8 "vault" = vaultSeed := by decide +kernel
    rw [seedBuffers, seedBytes, hseed]
    rfl
  | vaultAsset vault mint =>
    have hseed : utf8 "vault_asset" = vaultAssetSeed := by decide +kernel
    rw [seedBuffers, seedBytes, hseed]
    rfl
  | vaultToken vault mint =>
    have hseed : utf8 "vault_token" = vaultTokenSeed := by decide +kernel
    rw [seedBuffers, seedBytes, hseed]
    rfl
  | role vault principal =>
    have hseed : utf8 "role" = roleSeed := by decide +kernel
    rw [seedBuffers, seedBytes, hseed]
    rfl
  | withdrawal vault withdrawalId =>
    have hseed : utf8 "withdrawal" = withdrawalSeed := by decide +kernel
    rw [seedBuffers, seedBytes, hseed]
    rfl

theorem deriveAddress_eq [Web3 (Vector UInt8 32)] (seeds : Seeds (Vector UInt8 32))
    (programId : Vector UInt8 32) :
    deriveAddress seeds programId = .ok (findProgramAddressSync (seedBuffers seeds) programId) := by
  cases seeds with
  | protocol | escrowToken | vaultAsset | vaultToken | role => rfl
  | escrow maker escrowId =>
    unfold deriveAddress deriveEscrowAddress
    dsimp only
    rw [encodeU64_toNat]
    rfl
  | vault authority vaultId =>
    unfold deriveAddress deriveVaultAddress
    dsimp only
    rw [encodeU64_toNat]
    rfl
  | withdrawal vault withdrawalId =>
    unfold deriveAddress deriveWithdrawalAddress
    dsimp only
    rw [encodeU64_toNat]
    rfl

@[reducible]
def separatingWeb3 (buffers : List (List UInt8)) : Web3 (Vector UInt8 32) where
  sha256 _ := .replicate 32 0
  -- It tells `buffers` from all other seeds.
  findProgramAddressSync seeds _ := if seeds = buffers then .replicate 32 1 else .replicate 32 0
  ofBase58 _ := none
  toBase58 _ := ""
  systemProgramId := .replicate 32 0
  sysvarClockPubkey := .replicate 32 0
  tokenProgramAddress := .replicate 32 0
  token2022ProgramAddress := .replicate 32 0
  associatedTokenProgramAddress := .replicate 32 0

theorem separatingWeb3_find (buffers seeds : List (List UInt8)) (programId : Vector UInt8 32) :
    (separatingWeb3 buffers).findProgramAddressSync seeds programId
      = if seeds = buffers then .replicate 32 1 else .replicate 32 0 := rfl

theorem separatingWeb3_separates {buffers buffers' : List (List UInt8)}
    {programId : Vector UInt8 32}
    (h : (separatingWeb3 buffers).findProgramAddressSync buffers programId
      = (separatingWeb3 buffers).findProgramAddressSync buffers' programId) : buffers' = buffers := by
  by_contra hne
  rw [separatingWeb3_find, separatingWeb3_find, if_pos rfl, if_neg hne] at h
  exact absurd h (by decide)

theorem derivesFrom_iff {seeds : Seeds (Vector UInt8 32)} {buffers : List (List UInt8)} :
    DerivesFrom seeds buffers ↔ buffers = seedBytes seeds := by
  rw [← seedBuffers_eq_seedBytes]
  constructor
  . intro h
    let _ := separatingWeb3 (seedBuffers seeds)
    have heq := h (.replicate 32 0)
    rw [deriveAddress_eq, Except.ok.injEq] at heq
    exact separatingWeb3_separates heq
  . rintro rfl _ programId
    exact deriveAddress_eq seeds programId

/--
No two addresses of the program have a preimage in common, whatever the bumps, and the client hands
the seeds of the program to web3.js.
-/
theorem seed_preimages_separate :
    (∀ (seeds seeds' : Seeds (Vector UInt8 32)) (bump bump' : UInt8),
      seedPreimage seeds bump = seedPreimage seeds' bump' ↔ seeds = seeds' ∧ bump = bump') ∧
    (∀ (seeds : Seeds (Vector UInt8 32)) (buffers : List (List UInt8)),
      DerivesFrom seeds buffers ↔ buffers = seedBytes seeds) := by
  constructor
  . intro seeds seeds' bump bump'
    exact Seeds.preimage_inj
  . intro seeds buffers
    exact derivesFrom_iff

end IronVault.Client
