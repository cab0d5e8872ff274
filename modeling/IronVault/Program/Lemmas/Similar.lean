import IronVault.Util.Related
import IronVault.Program.Impl.Locks
import IronVault.Program.Lemmas.Accounts

/-!
This module contains two runs of one handler. The two states agree on the accounts `K`, except that
their pauses need only be related by `P` and `Q`. A handler that looks at no other account and at no
pause that the relations leave open ends in the same way on both, and in states that agree again.
-/

namespace IronVault

variable {Pubkey : Type} [DecidableEq Pubkey] [Solana Pubkey]

open Except (Related)

/--
The pause flag that rejects an instruction.
-/
def Instruction.pauseScope : Instruction Pubkey → Option UInt32
  | .createEscrow .. => some pauseEscrowCreate
  | .releaseEscrow .. => some pauseEscrowRelease
  | .createVault .. | .setVaultAuthority .. | .registerAsset .. | .grantRole .. | .revokeRole ..
  | .updateLimits .. => some pauseVaultConfig
  | .withdraw .. | .requestWithdrawal .. | .executeWithdrawal .. => some pauseVaultOutflow
  | _ => none

/--
The vault whose pause an instruction looks at.
-/
def Instruction.pauseVault? : Instruction Pubkey → Option Pubkey
  | .pauseVault ctx => some ctx.vault
  | .unpauseVault ctx => some ctx.vault
  | .withdraw ctx _ => some ctx.vault
  | .requestWithdrawal ctx _ => some ctx.vault
  | .executeWithdrawal ctx => some ctx.vault
  | _ => none

structure State.Similar (K : Pubkey → Prop) (P : UInt32 → UInt32 → Prop)
    (Q : Pubkey → Bool → Bool → Prop) (s t : State Pubkey) : Prop where
  protocolConfig {key : Pubkey} : K key →
    (s.protocolConfig key = none ∧ t.protocolConfig key = none) ∨
      ∃ config flags, s.protocolConfig key = some config ∧
        t.protocolConfig key = some { config with pauseFlags := flags } ∧ P config.pauseFlags flags
  vault {key : Pubkey} : K key →
    (s.vault key = none ∧ t.vault key = none) ∨
      ∃ vault paused, s.vault key = some vault ∧ t.vault key = some { vault with paused } ∧
        Q key vault.paused paused
  escrow {key : Pubkey} : K key → t.escrow key = s.escrow key
  vaultAsset {key : Pubkey} : K key → t.vaultAsset key = s.vaultAsset key
  roleAssignment {key : Pubkey} : K key → t.roleAssignment key = s.roleAssignment key
  withdrawalRequest {key : Pubkey} : K key → t.withdrawalRequest key = s.withdrawalRequest key
  token {key : Pubkey} : K key → t.token key = s.token key
  mint {key : Pubkey} : K key → t.mint key = s.mint key

/--
`transfer_checked` looks at its source, its destination and its mint, and at no other account.
-/
def TransfersWithin (K : Pubkey → Prop) : Prop :=
  ∀ (token token' : Pubkey → Option (TokenAccount Pubkey)) (mint mint' : Pubkey → Option (Mint Pubkey))
    (x : TransferChecked Pubkey) (amount : UInt64) (decimals : UInt8),
    (∀ key, K key → token' key = token key) → (∀ key, K key → mint' key = mint key) →
    K x.source → K x.destination → K x.mint →
      (Solana.transferChecked token mint x amount decimals = none ∧
          Solana.transferChecked token' mint' x amount decimals = none) ∨
        ∃ moved moved', Solana.transferChecked token mint x amount decimals = some moved ∧
          Solana.transferChecked token' mint' x amount decimals = some moved' ∧
          ∀ key, K key → moved' key = moved key

namespace State.Similar

variable {K : Pubkey → Prop} {P : UInt32 → UInt32 → Prop} {Q : Pubkey → Bool → Bool → Prop}
variable {s t : State Pubkey} {key : Pubkey}

section Loads

variable (h : s.Similar K P Q t) (hkey : K key)

include h hkey

omit [DecidableEq Pubkey] [Solana Pubkey] in
theorem unallocated_eq : t.unallocated key = s.unallocated key := by
  have hconfig : (t.protocolConfig key).isNone = (s.protocolConfig key).isNone := by
    rcases h.protocolConfig hkey with ⟨hs, ht⟩ | ⟨_, _, hs, ht, -⟩ <;> simp [hs, ht]
  have hvault : (t.vault key).isNone = (s.vault key).isNone := by
    rcases h.vault hkey with ⟨hs, ht⟩ | ⟨_, _, hs, ht, -⟩ <;> simp [hs, ht]
  simp only [State.unallocated, hconfig, hvault, h.escrow hkey, h.vaultAsset hkey,
    h.roleAssignment hkey, h.withdrawalRequest hkey, h.token hkey, h.mint hkey]

theorem init_eq (seeds : Seeds Pubkey) : s.init key seeds = t.init key seeds := by
  unfold State.init
  rw [h.unallocated_eq hkey]

theorem loadProtocolConfig :
    Related (fun config config' => s.protocolConfig key = some config ∧
        ∃ flags, config' = { config with pauseFlags := flags } ∧ P config.pauseFlags flags)
      (s.loadProtocolConfig key) (t.loadProtocolConfig key) := by
  unfold State.loadProtocolConfig
  rcases h.protocolConfig hkey with ⟨hs, ht⟩ | ⟨config, flags, hs, ht, hflags⟩
  . rw [hs, ht]
    exact .error
  . rw [hs, ht]
    change Related _ (do checkSeeds key .protocol config.bump; pure config)
      (do checkSeeds key .protocol config.bump; pure { config with pauseFlags := flags })
    apply Related.bind_eq rfl
    intro _ _
    apply Related.pure
    exact ⟨rfl, flags, rfl, hflags⟩

theorem loadVault :
    Related (fun vault vault' => ∃ paused, vault' = { vault with paused } ∧ Q key vault.paused paused)
      (s.loadVault key) (t.loadVault key) := by
  unfold State.loadVault
  rcases h.vault hkey with ⟨hs, ht⟩ | ⟨vault, paused, hs, ht, hpaused⟩
  . rw [hs, ht]
    exact .error
  . rw [hs, ht]
    change Related _ (do
        checkSeeds key (.vault vault.namespaceAuthority vault.vaultId) vault.bump
        pure vault)
      (do
        checkSeeds key (.vault vault.namespaceAuthority vault.vaultId) vault.bump
        pure { vault with paused })
    apply Related.bind_eq rfl
    intro _ _
    apply Related.pure
    exact ⟨paused, rfl, hpaused⟩

theorem loadEscrow_eq : s.loadEscrow key = t.loadEscrow key := by
  unfold State.loadEscrow
  rw [h.escrow hkey]

theorem loadVaultAsset_eq (v m : Pubkey) : s.loadVaultAsset key v m = t.loadVaultAsset key v m := by
  unfold State.loadVaultAsset
  rw [h.vaultAsset hkey]

theorem loadWithdrawalRequest_eq (v : Pubkey) :
    s.loadWithdrawalRequest key v = t.loadWithdrawalRequest key v := by
  unfold State.loadWithdrawalRequest
  rw [h.withdrawalRequest hkey]

theorem loadMint_eq (tokenProgram : Pubkey) : s.loadMint key tokenProgram = t.loadMint key tokenProgram := by
  unfold State.loadMint
  rw [h.mint hkey]

theorem loadToken_eq (mint tokenProgram : Pubkey) (wrongMint : IronVaultError) :
    s.loadToken key mint tokenProgram wrongMint = t.loadToken key mint tokenProgram wrongMint := by
  unfold State.loadToken
  rw [h.token hkey]

theorem loadOwnedToken_eq (owner mint tokenProgram : Pubkey) (wrongOwner wrongMint : IronVaultError) :
    s.loadOwnedToken key owner mint tokenProgram wrongOwner wrongMint
      = t.loadOwnedToken key owner mint tokenProgram wrongOwner wrongMint := by
  unfold State.loadOwnedToken
  rw [h.loadToken_eq hkey]

theorem loadCustody_eq (seeds : Seeds Pubkey) (owner mint tokenProgram : Pubkey)
    (wrongOwner wrongMint : IronVaultError) :
    s.loadCustody key seeds owner mint tokenProgram wrongOwner wrongMint
      = t.loadCustody key seeds owner mint tokenProgram wrongOwner wrongMint := by
  unfold State.loadCustody
  rw [h.loadOwnedToken_eq hkey]

omit [DecidableEq Pubkey] [Solana Pubkey] in
theorem requireBalance_eq (amount : UInt64) (wrong : IronVaultError) :
    s.requireBalance key amount wrong = t.requireBalance key amount wrong := by
  unfold State.requireBalance
  rw [h.token hkey]

end Loads

section Checks

variable (h : s.Similar K P Q t)

include h

theorem validateRolePermission_eq (hkey : K key) (vault caller : Pubkey) (permission : UInt64) :
    s.validateRolePermission key vault caller permission
      = t.validateRolePermission key vault caller permission := by
  unfold State.validateRolePermission
  rw [h.roleAssignment hkey]

theorem authorize_eq {remainingAccounts : List Pubkey} (hkeys : ∀ key ∈ remainingAccounts, K key)
    (intrinsic : Bool) (vault caller : Pubkey) (permission : UInt64)
    (unexpected missing : IronVaultError) :
    s.authorize intrinsic remainingAccounts vault caller permission unexpected missing
      = t.authorize intrinsic remainingAccounts vault caller permission unexpected missing := by
  unfold State.authorize
  split
  . rfl
  . split
    . rfl
    . next roleInfo =>
      apply h.validateRolePermission_eq
      apply hkeys
      apply List.mem_singleton_self
    . rfl

theorem transferChecked (htransfers : TransfersWithin K) {x : TransferChecked Pubkey}
    (hsource : K x.source) (hdestination : K x.destination) (hmint : K x.mint) (amount : UInt64)
    (decimals : UInt8) :
    Related (State.Similar K P Q) (s.transferChecked x amount decimals)
      (t.transferChecked x amount decimals) := by
  unfold State.transferChecked
  rcases htransfers s.token t.token s.mint t.mint x amount decimals (fun _ => h.token)
    (fun _ => h.mint) hsource hdestination hmint with ⟨hs, ht⟩ | ⟨moved, moved', hs, ht, hmoved⟩
  . rw [hs, ht]
    exact .error
  . rw [hs, ht]
    apply Related.ok
    exact { h with token := fun hkey => hmoved _ hkey }

end Checks

omit [DecidableEq Pubkey] [Solana Pubkey] in
theorem requireProtocolActive_eq {config : ProtocolConfig Pubkey} {flags flag : UInt32}
    (hsame : config.pauseFlags &&& flag ≠ 0 ↔ flags &&& flag ≠ 0) :
    requireProtocolActive config flag
      = requireProtocolActive { config with pauseFlags := flags } flag := by
  have hpaused : config.isPaused flag
      = ProtocolConfig.isPaused { config with pauseFlags := flags } flag := by
    simp only [ProtocolConfig.isPaused, hsame]
  unfold requireProtocolActive
  rw [hpaused]

section Writes

omit [Solana Pubkey] in
theorem update_eq {β : Type} {m m' : Pubkey → Option β} (hm : ∀ {key}, K key → m' key = m key)
    (k : Pubkey) (x : Option β) {key : Pubkey} (hkey : K key) :
    Function.update m' k x key = Function.update m k x key := by
  rw [Function.update_apply, Function.update_apply, hm hkey]

variable (h : s.Similar K P Q t)

include h

omit [Solana Pubkey] in
theorem writeProtocolConfig {config : ProtocolConfig Pubkey} {flags : UInt32} (k : Pubkey)
    (hflags : P config.pauseFlags flags) :
    State.Similar K P Q
      { s with protocolConfig := Function.update s.protocolConfig k (some config) }
      { t with protocolConfig :=
          Function.update t.protocolConfig k (some { config with pauseFlags := flags }) } := by
  refine { h with protocolConfig := ?_ }
  intro key hkey
  by_cases hk : key = k
  . subst hk
    exact .inr ⟨config, flags, Function.update_self .., Function.update_self .., hflags⟩
  . simp only [Function.update_of_ne hk]
    exact h.protocolConfig hkey

omit [Solana Pubkey] in
theorem writeVault {vault : Vault Pubkey} {paused : Bool} (k : Pubkey)
    (hpaused : Q k vault.paused paused) :
    State.Similar K P Q
      { s with vault := Function.update s.vault k (some vault) }
      { t with vault := Function.update t.vault k (some { vault with paused }) } := by
  refine { h with vault := ?_ }
  intro key hkey
  by_cases hk : key = k
  . subst hk
    exact .inr ⟨vault, paused, Function.update_self .., Function.update_self .., hpaused⟩
  . simp only [Function.update_of_ne hk]
    exact h.vault hkey

omit [Solana Pubkey] in
theorem writeEscrow (k : Pubkey) (escrow : Escrow Pubkey) :
    State.Similar K P Q { s with escrow := Function.update s.escrow k (some escrow) }
      { t with escrow := Function.update t.escrow k (some escrow) } :=
  { h with escrow := update_eq h.escrow k _ }

omit [Solana Pubkey] in
theorem writeVaultAsset (k : Pubkey) (asset : VaultAsset Pubkey) :
    State.Similar K P Q { s with vaultAsset := Function.update s.vaultAsset k (some asset) }
      { t with vaultAsset := Function.update t.vaultAsset k (some asset) } :=
  { h with vaultAsset := update_eq h.vaultAsset k _ }

omit [Solana Pubkey] in
theorem writeRoleAssignment (k : Pubkey) (role : RoleAssignment Pubkey) :
    State.Similar K P Q { s with roleAssignment := Function.update s.roleAssignment k (some role) }
      { t with roleAssignment := Function.update t.roleAssignment k (some role) } :=
  { h with roleAssignment := update_eq h.roleAssignment k _ }

omit [Solana Pubkey] in
theorem writeWithdrawalRequest (k : Pubkey) (request : WithdrawalRequest Pubkey) :
    State.Similar K P Q
      { s with withdrawalRequest := Function.update s.withdrawalRequest k (some request) }
      { t with withdrawalRequest := Function.update t.withdrawalRequest k (some request) } :=
  { h with withdrawalRequest := update_eq h.withdrawalRequest k _ }

omit [Solana Pubkey] in
theorem writeToken (k : Pubkey) (account : TokenAccount Pubkey) :
    State.Similar K P Q { s with token := Function.update s.token k (some account) }
      { t with token := Function.update t.token k (some account) } :=
  { h with token := update_eq h.token k _ }

end Writes

end State.Similar
end IronVault
