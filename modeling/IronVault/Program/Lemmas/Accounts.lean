import IronVault.Program.Impl.Accounts

/-!
This module contains what a successful account constraint, authorization or token transfer tells
about the state. The lemmas of the handlers are assembled from these.
-/

namespace IronVault

variable {Pubkey : Type} [DecidableEq Pubkey] [Solana Pubkey]

open Solana

@[simp]
theorem checkSeeds_eq_ok {key : Pubkey} {seeds : Seeds Pubkey} {bump : UInt8} {u : Unit} :
    checkSeeds key seeds bump = .ok u ↔ createProgramAddress seeds bump = some key := by
  simp [checkSeeds]

@[simp]
theorem checkCanonical_eq_ok {key : Pubkey} {seeds : Seeds Pubkey} {u : Unit} :
    checkCanonical key seeds = .ok u ↔ key = address seeds := by
  simp [checkCanonical]

@[simp]
theorem checkTokenProgram_eq_ok {key : Pubkey} {u : Unit} :
    checkTokenProgram key = .ok u ↔ isTokenProgram key := by
  simp [checkTokenProgram]

omit [DecidableEq Pubkey] [Solana Pubkey] in
@[simp]
theorem requireProtocolActive_eq_ok {config : ProtocolConfig Pubkey} {flag : UInt32} {u : Unit} :
    requireProtocolActive config flag = .ok u ↔ config.isPaused flag = false := by
  simp [requireProtocolActive]

namespace State

variable {s : State Pubkey}

theorem init_eq_ok {key : Pubkey} {seeds : Seeds Pubkey} {bump : UInt8} :
    s.init key seeds = .ok bump ↔
      key = address seeds ∧ s.unallocated key ∧ (findProgramAddress seeds).2 = bump := by
  simp [init]

theorem loadProtocolConfig_eq_ok {key : Pubkey} {config : ProtocolConfig Pubkey} :
    s.loadProtocolConfig key = .ok config ↔
      s.protocolConfig key = some config ∧
        createProgramAddress .protocol config.bump = some key := by
  simp [loadProtocolConfig]

theorem loadEscrow_eq_ok {key : Pubkey} {escrow : Escrow Pubkey} :
    s.loadEscrow key = .ok escrow ↔
      s.escrow key = some escrow ∧
        createProgramAddress (.escrow escrow.maker escrow.escrowId) escrow.bump = some key := by
  simp [loadEscrow]

theorem loadVault_eq_ok {key : Pubkey} {vault : Vault Pubkey} :
    s.loadVault key = .ok vault ↔
      s.vault key = some vault ∧
        createProgramAddress (.vault vault.namespaceAuthority vault.vaultId) vault.bump
          = some key := by
  simp [loadVault]

theorem loadVaultAsset_eq_ok {key vault mint : Pubkey} {asset : VaultAsset Pubkey} :
    s.loadVaultAsset key vault mint = .ok asset ↔
      s.vaultAsset key = some asset ∧
        createProgramAddress (.vaultAsset vault mint) asset.bump = some key ∧
        asset.vault = vault ∧ asset.mint = mint := by
  simp only [loadVaultAsset, bind_pure_comp, Except.bind_eq_ok_iff, fetch_eq_ok, checkSeeds_eq_ok, require_eq_ok,
    Except.map_eq_ok_iff, exists_const]
  grind

theorem loadWithdrawalRequest_eq_ok {key vault : Pubkey} {request : WithdrawalRequest Pubkey} :
    s.loadWithdrawalRequest key vault = .ok request ↔
      s.withdrawalRequest key = some request ∧
        createProgramAddress (.withdrawal vault request.withdrawalId) request.bump = some key ∧
        request.vault = vault := by
  simp only [loadWithdrawalRequest, bind_pure_comp, Except.bind_eq_ok_iff, fetch_eq_ok, checkSeeds_eq_ok, require_eq_ok,
    Except.map_eq_ok_iff, exists_const]
  grind

theorem loadMint_eq_ok {key tokenProgram : Pubkey} {mint : Mint Pubkey} :
    s.loadMint key tokenProgram = .ok mint ↔
      s.mint key = some mint ∧ isTokenProgram mint.tokenProgram ∧
        mint.tokenProgram = tokenProgram ∧ mintExtensionsSupported mint := by
  simp only [loadMint, bind_pure_comp, Except.bind_eq_ok_iff, fetch_eq_ok, require_eq_ok,
    Except.map_eq_ok_iff, exists_const]
  grind

theorem loadToken_eq_ok {key mint tokenProgram : Pubkey} {wrongMint : IronVaultError}
    {account : TokenAccount Pubkey} :
    s.loadToken key mint tokenProgram wrongMint = .ok account ↔
      s.token key = some account ∧ isTokenProgram account.tokenProgram ∧ account.mint = mint ∧
        account.tokenProgram = tokenProgram := by
  simp only [loadToken, bind_pure_comp, Except.bind_eq_ok_iff, fetch_eq_ok, require_eq_ok,
    Except.map_eq_ok_iff, exists_const]
  grind

theorem loadOwnedToken_eq_ok {key owner mint tokenProgram : Pubkey}
    {wrongOwner wrongMint : IronVaultError} {account : TokenAccount Pubkey} :
    s.loadOwnedToken key owner mint tokenProgram wrongOwner wrongMint = .ok account ↔
      s.token key = some account ∧ isTokenProgram account.tokenProgram ∧ account.mint = mint ∧
        account.tokenProgram = tokenProgram ∧ account.owner = owner := by
  simp [loadOwnedToken, loadToken_eq_ok]
  grind

theorem loadCustody_eq_ok {key owner mint tokenProgram : Pubkey} {seeds : Seeds Pubkey}
    {wrongOwner wrongMint : IronVaultError} {account : TokenAccount Pubkey} :
    s.loadCustody key seeds owner mint tokenProgram wrongOwner wrongMint = .ok account ↔
      key = address seeds ∧ s.token key = some account ∧ isTokenProgram account.tokenProgram ∧
        account.mint = mint ∧ account.tokenProgram = tokenProgram ∧ account.owner = owner := by
  simp [loadCustody, loadOwnedToken_eq_ok]

theorem transferChecked_eq_ok {s' : State Pubkey} {x : TransferChecked Pubkey} {amount : UInt64}
    {decimals : UInt8} :
    s.transferChecked x amount decimals = .ok s' ↔
      ∃ token, Solana.transferChecked s.token s.mint x amount decimals = some token ∧
        { s with token } = s' := by
  simp [transferChecked]

omit [DecidableEq Pubkey] [Solana Pubkey] in
theorem requireBalance_eq_ok {key : Pubkey} {amount : UInt64} {wrong : IronVaultError} {u : Unit} :
    s.requireBalance key amount wrong = .ok u ↔
      ∃ account, s.token key = some account ∧ account.amount = amount := by
  simp [requireBalance]

structure Vacant (s : State Pubkey) (key : Pubkey) : Prop where
  protocolConfig : s.protocolConfig key = none
  escrow : s.escrow key = none
  vault : s.vault key = none
  vaultAsset : s.vaultAsset key = none
  roleAssignment : s.roleAssignment key = none
  withdrawalRequest : s.withdrawalRequest key = none
  token : s.token key = none

omit [DecidableEq Pubkey] [Solana Pubkey] in
theorem vacant_of_unallocated {key : Pubkey} (h : s.unallocated key) : s.Vacant key := by
  simp only [unallocated, Bool.and_eq_true, Option.isNone_iff_eq_none] at h
  obtain ⟨⟨⟨⟨⟨⟨⟨hconfig, hescrow⟩, hvault⟩, hasset⟩, hrole⟩, hrequest⟩, htoken⟩, -⟩ := h
  exact ⟨hconfig, hescrow, hvault, hasset, hrole, hrequest, htoken⟩

def Active (s : State Pubkey) (key : Pubkey) (flag : UInt32) : Prop :=
  ∃ config, s.protocolConfig key = some config ∧ config.isPaused flag = false

def SupportedMint (s : State Pubkey) (mint tokenProgram : Pubkey) : Prop :=
  ∃ m, s.mint mint = some m ∧ isTokenProgram tokenProgram ∧ m.tokenProgram = tokenProgram ∧
    mintExtensionsSupported m

def HoldsRole (s : State Pubkey) (vault principal : Pubkey) (permission : UInt64) : Prop :=
  ∃ role, s.roleAssignment (address (.role vault principal)) = some role ∧ role.vault = vault ∧
    role.principal = principal ∧ role.has permission

theorem validateRolePermission_eq_ok {roleInfo vault caller : Pubkey} {permission : UInt64}
    {u : Unit} :
    s.validateRolePermission roleInfo vault caller permission = .ok u ↔
      roleInfo = address (.role vault caller) ∧ s.HoldsRole vault caller permission := by
  simp [validateRolePermission, HoldsRole]
  grind

theorem authorize_eq_ok {intrinsic : Bool} {remainingAccounts : List Pubkey}
    {vault caller : Pubkey} {permission : UInt64} {unexpected missing : IronVaultError} {u : Unit} :
    s.authorize intrinsic remainingAccounts vault caller permission unexpected missing = .ok u ↔
      (intrinsic ∧ remainingAccounts = []) ∨
        (intrinsic = false ∧ remainingAccounts = [address (.role vault caller)] ∧
          s.HoldsRole vault caller permission) := by
  unfold authorize
  split
  . simp_all
  . split <;> simp_all [validateRolePermission_eq_ok]

end State

structure Moves (token : Pubkey → Option (TokenAccount Pubkey)) (source destination : Pubkey)
    (amount : UInt64) (token' : Pubkey → Option (TokenAccount Pubkey)) : Prop where
  ne : source ≠ destination
  accounts : ∃ src src' dst, token source = some src ∧ token destination = some dst ∧
    src.Debited src' amount ∧ dst.Receives ∧ dst.amount.toNat + amount.toNat < 2 ^ 64 ∧
    token' = Function.update (Function.update token source (some src')) destination
      (some { dst with amount := dst.amount + amount })

theorem mintExtensionsSupported_iff {m : Mint Pubkey} :
    mintExtensionsSupported m ↔ m.tokenProgram = tokenId ∨ m.extensionTypes = [] := by
  simp [mintExtensionsSupported]

theorem Moves.of_transferChecked {s s' : State Pubkey} {x : TransferChecked Pubkey}
    {amount after : UInt64} {decimals : UInt8} {src dst : TokenAccount Pubkey} {m : Mint Pubkey}
    (h : s.transferChecked x amount decimals = .ok s')
    (hm : s.mint x.mint = some m) (hsupported : mintExtensionsSupported m)
    (hsrc : s.token x.source = some src) (hdst : s.token x.destination = some dst)
    (howner : src.owner = x.authority) (hpos : 0 < amount)
    (hafter : src.amount.toNat = after.toNat + amount.toNat)
    (hbalance : ∃ account, s'.token x.source = some account ∧ account.amount = after) :
    Moves s.token x.source x.destination amount s'.token := by
  rw [State.transferChecked_eq_ok] at h
  obtain ⟨token, htransfer, rfl⟩ := h
  obtain ⟨account, haccount, hamount⟩ := hbalance
  have hne : x.source ≠ x.destination := by
    -- A self-transfer succeeds without effect, so the balance read back is the old one
    intro heq
    have htoken := transferChecked_self htransfer heq
    dsimp only at haccount
    rw [htoken, hsrc, Option.some_inj] at haccount
    rw [UInt64.lt_iff_toNat_lt] at hpos
    rw [haccount, hamount] at hafter
    simp at hpos
    omega
  obtain ⟨src', hdebit, hreceives, hroom, htoken⟩ := transferChecked_ok htransfer hsrc hdst hm
    (mintExtensionsSupported_iff.mp hsupported) howner hne
  exact ⟨hne, src, src', dst, hsrc, hdst, hdebit, hreceives, hroom, htoken⟩

end IronVault
