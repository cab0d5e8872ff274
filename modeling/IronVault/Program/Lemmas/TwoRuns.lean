import IronVault.Program.Lemmas.Similar

/-!
This module contains that every handler looks at the accounts of its instruction only, and at the
pause flag and the paused vault of its scope only.
-/

namespace IronVault

variable {Pubkey : Type} [DecidableEq Pubkey] [Solana Pubkey]

open Except (Related)

variable {K : Pubkey → Prop} {P : UInt32 → UInt32 → Prop} {Q : Pubkey → Bool → Bool → Prop}

def SameFlag (P : UInt32 → UInt32 → Prop) (flag : UInt32) : Prop :=
  ∀ flags flags', P flags flags' → (flags &&& flag ≠ 0 ↔ flags' &&& flag ≠ 0)

def SameEnd (K : Pubkey → Prop) (P : UInt32 → UInt32 → Prop) (Q : Pubkey → Bool → Bool → Prop)
    {ε : Type} (p q : State Pubkey × ε) : Prop :=
  p.1.Similar K P Q q.1 ∧ q.2 = p.2

section Escrow

variable {s t : State Pubkey} (h : s.Similar K P Q t) (htransfers : TransfersWithin K)

include h htransfers

theorem CreateEscrow.create_related (ctx : CreateEscrow Pubkey) {escrowId : UInt64}
    {recipient : Pubkey} {amount : UInt64} {expiresAt now : Int64} (hconfig : K ctx.protocolConfig)
    (hmint : K ctx.mint) (hmakerToken : K ctx.makerToken) (hescrow : K ctx.escrow)
    (hescrowToken : K ctx.escrowToken) (hflag : SameFlag P pauseEscrowCreate) :
    Related (SameEnd K P Q) (ctx.create s escrowId recipient amount expiresAt now)
      (ctx.create t escrowId recipient amount expiresAt now) := by
  unfold create
  apply Related.bind_eq rfl
  intro _ _
  apply Related.bind (h.loadProtocolConfig hconfig)
  rintro config _ - - ⟨-, flags, rfl, hflags⟩
  apply Related.bind_eq (h.loadMint_eq hmint _)
  intro mint _
  apply Related.bind_eq (h.loadOwnedToken_eq hmakerToken ..)
  intro makerToken _
  apply Related.bind_eq (h.init_eq hescrow _)
  intro bump _
  apply Related.bind_eq (h.init_eq hescrowToken _)
  intro _ _
  apply Related.bind_eq (State.Similar.requireProtocolActive_eq (hflag _ _ hflags))
  intro _ _
  iterate 5
    apply Related.bind_eq rfl
    intro _ _
  -- the escrow and its custody account are written before the transfer
  apply Related.bind (((h.writeEscrow _ _).writeToken _ _).transferChecked htransfers hmakerToken
    hescrowToken hmint ..)
  intro s₁ t₁ _ _ h₁
  apply Related.bind_eq rfl
  intro sourceAfter _
  apply Related.bind_eq (h₁.requireBalance_eq hmakerToken ..)
  intro _ _
  apply Related.bind_eq (h₁.requireBalance_eq hescrowToken ..)
  intro _ _
  apply Related.pure
  exact ⟨h₁, rfl⟩

theorem ReleaseEscrow.release_related (ctx : ReleaseEscrow Pubkey) {now : Int64}
    (hconfig : K ctx.protocolConfig) (hescrow : K ctx.escrow) (hmint : K ctx.mint)
    (hescrowToken : K ctx.escrowToken) (hrecipientToken : K ctx.recipientToken)
    (hflag : SameFlag P pauseEscrowRelease) :
    Related (SameEnd K P Q) (ctx.release s now) (ctx.release t now) := by
  unfold release
  apply Related.bind_eq rfl
  intro _ _
  apply Related.bind (h.loadProtocolConfig hconfig)
  rintro config _ - - ⟨-, flags, rfl, hflags⟩
  apply Related.bind_eq (h.loadEscrow_eq hescrow)
  intro escrow _
  iterate 3
    apply Related.bind_eq rfl
    intro _ _
  apply Related.bind_eq (h.loadMint_eq hmint _)
  intro mint _
  apply Related.bind_eq (h.loadCustody_eq hescrowToken ..)
  intro escrowToken _
  apply Related.bind_eq (h.loadOwnedToken_eq hrecipientToken ..)
  intro recipientToken _
  apply Related.bind_eq (State.Similar.requireProtocolActive_eq (hflag _ _ hflags))
  intro _ _
  iterate 3
    apply Related.bind_eq rfl
    intro _ _
  apply Related.bind (h.transferChecked htransfers hescrowToken hrecipientToken hmint ..)
  intro s₁ t₁ _ _ h₁
  apply Related.bind_eq rfl
  intro custodyAfter _
  apply Related.bind_eq (h₁.requireBalance_eq hescrowToken ..)
  intro _ _
  apply Related.bind_eq rfl
  intro recipientAfter _
  apply Related.bind_eq (h₁.requireBalance_eq hrecipientToken ..)
  intro _ _
  apply Related.pure
  exact ⟨h₁.writeEscrow _ _, rfl⟩

theorem RefundEscrow.refund_related (ctx : RefundEscrow Pubkey) {now : Int64}
    (hescrow : K ctx.escrow) (hmint : K ctx.mint) (hescrowToken : K ctx.escrowToken)
    (hmakerDestination : K ctx.makerDestination) :
    Related (SameEnd K P Q) (ctx.refund s now) (ctx.refund t now) := by
  unfold refund
  apply Related.bind_eq rfl
  intro _ _
  apply Related.bind_eq (h.loadEscrow_eq hescrow)
  intro escrow _
  iterate 2
    apply Related.bind_eq rfl
    intro _ _
  apply Related.bind_eq (h.loadMint_eq hmint _)
  intro mint _
  apply Related.bind_eq (h.loadCustody_eq hescrowToken ..)
  intro escrowToken _
  apply Related.bind_eq (h.loadOwnedToken_eq hmakerDestination ..)
  intro makerDestination _
  iterate 3
    apply Related.bind_eq rfl
    intro _ _
  apply Related.bind (h.transferChecked htransfers hescrowToken hmakerDestination hmint ..)
  intro s₁ t₁ _ _ h₁
  apply Related.bind_eq rfl
  intro custodyAfter _
  apply Related.bind_eq (h₁.requireBalance_eq hescrowToken ..)
  intro _ _
  apply Related.bind_eq rfl
  intro destinationAfter _
  apply Related.bind_eq (h₁.requireBalance_eq hmakerDestination ..)
  intro _ _
  apply Related.pure
  exact ⟨h₁.writeEscrow _ _, rfl⟩

end Escrow

section Protocol

variable {s t : State Pubkey} (h : s.Similar K P Q t)

include h

theorem InitializeProtocol.initializeProtocolAccount_related (ctx : InitializeProtocol Pubkey)
    {admin guardian : Pubkey} (hconfig : K ctx.protocolConfig) (hzero : P 0 0) :
    Related (SameEnd K P Q) (ctx.initializeProtocolAccount s admin guardian)
      (ctx.initializeProtocolAccount t admin guardian) := by
  unfold initializeProtocolAccount
  apply Related.bind_eq (h.init_eq hconfig _)
  intro bump _
  apply Related.bind_eq rfl
  intro _ _
  apply Related.pure
  exact ⟨h.writeProtocolConfig _ hzero, rfl⟩

theorem SetProtocolPause.setPause_related (ctx : SetProtocolPause Pubkey) {flags : UInt32}
    (hconfig : K ctx.protocolConfig) (hsame : ∀ flags flags', P flags flags' → flags = flags')
    (hrefl : P flags flags) :
    Related (SameEnd K P Q) (ctx.setPause s flags) (ctx.setPause t flags) := by
  unfold setPause
  apply Related.bind (h.loadProtocolConfig hconfig)
  rintro config _ - - ⟨-, flags', rfl, hflags⟩
  obtain rfl := hsame _ _ hflags
  iterate 3
    apply Related.bind_eq rfl
    intro _ _
  apply Related.pure
  exact ⟨h.writeProtocolConfig _ hrefl, rfl⟩

end Protocol

section Vault

variable {s t : State Pubkey} (h : s.Similar K P Q t)

include h

theorem CreateVault.createVaultAccount_related (ctx : CreateVault Pubkey) {vaultId : UInt64}
    {guardian : Pubkey} (hconfig : K ctx.protocolConfig) (hvault : K ctx.vault)
    (hflag : SameFlag P pauseVaultConfig) (hunpaused : Q ctx.vault false false) :
    Related (SameEnd K P Q) (ctx.createVaultAccount s vaultId guardian)
      (ctx.createVaultAccount t vaultId guardian) := by
  unfold createVaultAccount
  apply Related.bind (h.loadProtocolConfig hconfig)
  rintro config _ - - ⟨-, flags, rfl, hflags⟩
  apply Related.bind_eq (h.init_eq hvault _)
  intro bump _
  apply Related.bind_eq (State.Similar.requireProtocolActive_eq (hflag _ _ hflags))
  intro _ _
  apply Related.bind_eq rfl
  intro _ _
  apply Related.pure
  exact ⟨h.writeVault _ hunpaused, rfl⟩

theorem SetVaultAuthority.setAuthority_related (ctx : SetVaultAuthority Pubkey)
    {newAuthority : Pubkey} (hconfig : K ctx.protocolConfig) (hvault : K ctx.vault)
    (hflag : SameFlag P pauseVaultConfig) :
    Related (SameEnd K P Q) (ctx.setAuthority s newAuthority) (ctx.setAuthority t newAuthority) := by
  unfold setAuthority
  apply Related.bind (h.loadProtocolConfig hconfig)
  rintro config _ - - ⟨-, flags, rfl, hflags⟩
  apply Related.bind (h.loadVault hvault)
  rintro vault _ - - ⟨paused, rfl, hpaused⟩
  apply Related.bind_eq rfl
  intro _ _
  apply Related.bind_eq (State.Similar.requireProtocolActive_eq (hflag _ _ hflags))
  intro _ _
  apply Related.bind_eq rfl
  intro _ _
  apply Related.pure
  exact ⟨h.writeVault _ hpaused, rfl⟩

theorem PauseVault.pause_related (ctx : PauseVault Pubkey) (hvault : K ctx.vault)
    (hsame : ∀ b b', Q ctx.vault b b' → b = b') (hrefl : Q ctx.vault true true) :
    Related (SameEnd K P Q) (ctx.pause s) (ctx.pause t) := by
  unfold pause
  apply Related.bind (h.loadVault hvault)
  rintro vault _ - - ⟨paused, rfl, hpaused⟩
  obtain rfl := hsame _ _ hpaused
  iterate 2
    apply Related.bind_eq rfl
    intro _ _
  apply Related.pure
  exact ⟨h.writeVault _ hrefl, rfl⟩

theorem UnpauseVault.unpause_related (ctx : UnpauseVault Pubkey) (hvault : K ctx.vault)
    (hsame : ∀ b b', Q ctx.vault b b' → b = b') (hrefl : Q ctx.vault false false) :
    Related (SameEnd K P Q) (ctx.unpause s) (ctx.unpause t) := by
  unfold unpause
  apply Related.bind (h.loadVault hvault)
  rintro vault _ - - ⟨paused, rfl, hpaused⟩
  obtain rfl := hsame _ _ hpaused
  iterate 2
    apply Related.bind_eq rfl
    intro _ _
  apply Related.pure
  exact ⟨h.writeVault _ hrefl, rfl⟩

theorem GrantRole.grant_related (ctx : GrantRole Pubkey) {principal : Pubkey} {permissions : UInt64}
    (hconfig : K ctx.protocolConfig) (hvault : K ctx.vault) (hrole : K ctx.roleAssignment)
    (hflag : SameFlag P pauseVaultConfig) :
    Related (SameEnd K P Q) (ctx.grant s principal permissions)
      (ctx.grant t principal permissions) := by
  unfold grant
  apply Related.bind (h.loadProtocolConfig hconfig)
  rintro config _ - - ⟨-, flags, rfl, hflags⟩
  apply Related.bind (h.loadVault hvault)
  rintro vault _ - - ⟨paused, rfl, hpaused⟩
  iterate 2
    apply Related.bind_eq rfl
    intro _ _
  have hfree : (t.unallocated ctx.roleAssignment ∨ (t.roleAssignment ctx.roleAssignment).isSome)
      ↔ (s.unallocated ctx.roleAssignment ∨ (s.roleAssignment ctx.roleAssignment).isSome) := by
    rw [h.unallocated_eq hrole, h.roleAssignment hrole]
  apply Related.bind_eq
  . simp only [hfree]
  . intro _ _
    apply Related.bind_eq (State.Similar.requireProtocolActive_eq (hflag _ _ hflags))
    intro _ _
    iterate 2
      apply Related.bind_eq rfl
      intro _ _
    apply Related.pure
    exact ⟨h.writeRoleAssignment _ _, rfl⟩

theorem RevokeRole.revoke_related (ctx : RevokeRole Pubkey) {principal : Pubkey}
    (hconfig : K ctx.protocolConfig) (hvault : K ctx.vault) (hrole : K ctx.roleAssignment)
    (hflag : SameFlag P pauseVaultConfig) :
    Related (SameEnd K P Q) (ctx.revoke s principal) (ctx.revoke t principal) := by
  unfold revoke
  apply Related.bind (h.loadProtocolConfig hconfig)
  rintro config _ - - ⟨-, flags, rfl, hflags⟩
  apply Related.bind (h.loadVault hvault)
  rintro vault _ - - ⟨paused, rfl, hpaused⟩
  apply Related.bind_eq rfl
  intro _ _
  apply Related.bind_eq
  . rw [h.roleAssignment hrole]
  . intro role _
    iterate 3
      apply Related.bind_eq rfl
      intro _ _
    apply Related.bind_eq (State.Similar.requireProtocolActive_eq (hflag _ _ hflags))
    intro _ _
    apply Related.bind_eq rfl
    intro _ _
    apply Related.pure
    exact ⟨h.writeRoleAssignment _ _, rfl⟩

end Vault

section Asset

variable {s t : State Pubkey} (h : s.Similar K P Q t)

include h

theorem RegisterAsset.registerVaultAsset_related (ctx : RegisterAsset Pubkey) {now : Int64}
    (hconfig : K ctx.protocolConfig) (hvault : K ctx.vault) (hmint : K ctx.mint)
    (hasset : K ctx.vaultAsset) (htoken : K ctx.vaultToken) (hflag : SameFlag P pauseVaultConfig) :
    Related (SameEnd K P Q) (ctx.registerVaultAsset s now) (ctx.registerVaultAsset t now) := by
  unfold registerVaultAsset
  apply Related.bind_eq rfl
  intro _ _
  apply Related.bind (h.loadProtocolConfig hconfig)
  rintro config _ - - ⟨-, flags, rfl, hflags⟩
  apply Related.bind (h.loadVault hvault)
  rintro vault _ - - ⟨paused, rfl, hpaused⟩
  apply Related.bind_eq rfl
  intro _ _
  apply Related.bind_eq (h.loadMint_eq hmint _)
  intro _ _
  apply Related.bind_eq (h.init_eq hasset _)
  intro bump _
  apply Related.bind_eq (h.init_eq htoken _)
  intro _ _
  apply Related.bind_eq (State.Similar.requireProtocolActive_eq (hflag _ _ hflags))
  intro _ _
  apply Related.pure
  exact ⟨(h.writeVaultAsset _ _).writeToken _ _, rfl⟩

theorem UpdateLimits.update_related (ctx : UpdateLimits Pubkey) {policy : Policy} {now : Int64}
    (hconfig : K ctx.protocolConfig) (hvault : K ctx.vault) (hmint : K ctx.mint)
    (hasset : K ctx.vaultAsset) (hremaining : ∀ key ∈ ctx.remainingAccounts, K key)
    (hflag : SameFlag P pauseVaultConfig) :
    Related (SameEnd K P Q) (ctx.update s policy now) (ctx.update t policy now) := by
  unfold update
  apply Related.bind (h.loadProtocolConfig hconfig)
  rintro config _ - - ⟨-, flags, rfl, hflags⟩
  apply Related.bind (h.loadVault hvault)
  rintro vault _ - - ⟨paused, rfl, hpaused⟩
  apply Related.bind_eq (h.loadVaultAsset_eq hasset ..)
  intro asset _
  apply Related.bind_eq (h.loadMint_eq hmint _)
  intro _ _
  apply Related.bind_eq (State.Similar.requireProtocolActive_eq (hflag _ _ hflags))
  intro _ _
  apply Related.bind_eq (h.authorize_eq hremaining ..)
  intro _ _
  iterate 2
    apply Related.bind_eq rfl
    intro _ _
  apply Related.pure
  exact ⟨h.writeVaultAsset _ _, rfl⟩

variable (htransfers : TransfersWithin K)

include htransfers

theorem Deposit.depositTokens_related (ctx : Deposit Pubkey) {amount : UInt64} (hvault : K ctx.vault)
    (hmint : K ctx.mint) (hasset : K ctx.vaultAsset) (hsource : K ctx.sourceToken)
    (htoken : K ctx.vaultToken) :
    Related (SameEnd K P Q) (ctx.depositTokens s amount) (ctx.depositTokens t amount) := by
  unfold depositTokens
  apply Related.bind_eq rfl
  intro _ _
  apply Related.bind (h.loadVault hvault)
  rintro vault _ - - ⟨paused, rfl, hpaused⟩
  apply Related.bind_eq (h.loadMint_eq hmint _)
  intro mint _
  apply Related.bind_eq (h.loadVaultAsset_eq hasset ..)
  intro asset _
  apply Related.bind_eq rfl
  intro _ _
  apply Related.bind_eq (h.loadOwnedToken_eq hsource ..)
  intro sourceToken _
  apply Related.bind_eq (h.loadCustody_eq htoken ..)
  intro vaultToken _
  iterate 4
    apply Related.bind_eq rfl
    intro _ _
  apply Related.bind (h.transferChecked htransfers hsource htoken hmint ..)
  intro s₁ t₁ _ _ h₁
  apply Related.bind_eq rfl
  intro sourceAfter _
  apply Related.bind_eq (h₁.requireBalance_eq hsource ..)
  intro _ _
  apply Related.bind_eq (h₁.requireBalance_eq htoken ..)
  intro _ _
  apply Related.pure
  exact ⟨h₁, rfl⟩

theorem Withdraw.withdrawTokens_related (ctx : Withdraw Pubkey) {amount : UInt64} {now : Int64}
    (hconfig : K ctx.protocolConfig) (hvault : K ctx.vault) (hmint : K ctx.mint)
    (hasset : K ctx.vaultAsset) (htoken : K ctx.vaultToken) (hdestination : K ctx.destinationToken)
    (hremaining : ∀ key ∈ ctx.remainingAccounts, K key) (hflag : SameFlag P pauseVaultOutflow)
    (hsame : ∀ b b', Q ctx.vault b b' → b = b') :
    Related (SameEnd K P Q) (ctx.withdrawTokens s amount now) (ctx.withdrawTokens t amount now) := by
  unfold withdrawTokens
  apply Related.bind_eq rfl
  intro _ _
  apply Related.bind (h.loadProtocolConfig hconfig)
  rintro config _ - - ⟨-, flags, rfl, hflags⟩
  apply Related.bind (h.loadVault hvault)
  rintro vault _ - - ⟨paused, rfl, hpaused⟩
  obtain rfl := hsame _ _ hpaused
  apply Related.bind_eq (h.loadMint_eq hmint _)
  intro mint _
  apply Related.bind_eq (h.loadVaultAsset_eq hasset ..)
  intro asset _
  apply Related.bind_eq rfl
  intro _ _
  apply Related.bind_eq (h.loadCustody_eq htoken ..)
  intro vaultToken _
  apply Related.bind_eq (h.loadToken_eq hdestination ..)
  intro destinationToken _
  apply Related.bind_eq (State.Similar.requireProtocolActive_eq (hflag _ _ hflags))
  intro _ _
  apply Related.bind_eq (h.authorize_eq hremaining ..)
  intro _ _
  iterate 8
    apply Related.bind_eq rfl
    intro _ _
  apply Related.bind (h.transferChecked htransfers htoken hdestination hmint ..)
  intro s₁ t₁ _ _ h₁
  apply Related.bind_eq rfl
  intro custodyAfter _
  apply Related.bind_eq (h₁.requireBalance_eq htoken ..)
  intro _ _
  apply Related.bind_eq (h₁.requireBalance_eq hdestination ..)
  intro _ _
  apply Related.pure
  exact ⟨h₁.writeVaultAsset _ _, rfl⟩

end Asset

section Withdrawal

variable {s t : State Pubkey} (h : s.Similar K P Q t)

include h

theorem RequestWithdrawal.request_related (ctx : RequestWithdrawal Pubkey) {amount : UInt64}
    {now : Int64} (hconfig : K ctx.protocolConfig) (hvault : K ctx.vault) (hmint : K ctx.mint)
    (hasset : K ctx.vaultAsset) (hrecipient : K ctx.recipientToken)
    (hrequest : K ctx.withdrawalRequest) (hremaining : ∀ key ∈ ctx.remainingAccounts, K key)
    (hflag : SameFlag P pauseVaultOutflow) (hsame : ∀ b b', Q ctx.vault b b' → b = b') :
    Related (SameEnd K P Q) (ctx.request s amount now) (ctx.request t amount now) := by
  unfold request
  apply Related.bind (h.loadProtocolConfig hconfig)
  rintro config _ - - ⟨-, flags, rfl, hflags⟩
  apply Related.bind (h.loadVault hvault)
  rintro vault _ - - ⟨paused, rfl, hpaused⟩
  obtain rfl := hsame _ _ hpaused
  apply Related.bind_eq (h.loadVaultAsset_eq hasset ..)
  intro asset _
  apply Related.bind_eq (h.loadMint_eq hmint _)
  intro _ _
  apply Related.bind_eq (h.loadToken_eq hrecipient ..)
  intro recipientToken _
  apply Related.bind_eq (h.init_eq hrequest _)
  intro bump _
  apply Related.bind_eq (State.Similar.requireProtocolActive_eq (hflag _ _ hflags))
  intro _ _
  apply Related.bind_eq (h.authorize_eq hremaining ..)
  intro _ _
  iterate 10
    apply Related.bind_eq rfl
    intro _ _
  apply Related.pure
  refine ⟨(h.writeVault _ ?_).writeWithdrawalRequest _ _, rfl⟩
  exact hpaused

theorem CancelWithdrawal.cancel_related (ctx : CancelWithdrawal Pubkey) (hvault : K ctx.vault)
    (hrequest : K ctx.withdrawalRequest) (hremaining : ∀ key ∈ ctx.remainingAccounts, K key) :
    Related (SameEnd K P Q) (ctx.cancel s) (ctx.cancel t) := by
  unfold cancel
  apply Related.bind (h.loadVault hvault)
  rintro vault _ - - ⟨paused, rfl, hpaused⟩
  apply Related.bind_eq (h.loadWithdrawalRequest_eq hrequest _)
  intro request _
  apply Related.bind_eq rfl
  intro _ _
  apply Related.bind_eq (h.authorize_eq hremaining ..)
  intro _ _
  apply Related.pure
  exact ⟨h.writeWithdrawalRequest _ _, rfl⟩

theorem ExecuteWithdrawal.execute_related (htransfers : TransfersWithin K)
    (ctx : ExecuteWithdrawal Pubkey) {now : Int64} (hconfig : K ctx.protocolConfig)
    (hvault : K ctx.vault) (hmint : K ctx.mint) (hasset : K ctx.vaultAsset)
    (hrequest : K ctx.withdrawalRequest) (htoken : K ctx.vaultToken)
    (hrecipient : K ctx.recipientToken) (hflag : SameFlag P pauseVaultOutflow)
    (hsame : ∀ b b', Q ctx.vault b b' → b = b') :
    Related (SameEnd K P Q) (ctx.execute s now) (ctx.execute t now) := by
  unfold execute
  apply Related.bind_eq rfl
  intro _ _
  apply Related.bind (h.loadProtocolConfig hconfig)
  rintro config _ - - ⟨-, flags, rfl, hflags⟩
  apply Related.bind (h.loadVault hvault)
  rintro vault _ - - ⟨paused, rfl, hpaused⟩
  obtain rfl := hsame _ _ hpaused
  apply Related.bind_eq (h.loadMint_eq hmint _)
  intro mint _
  apply Related.bind_eq (h.loadVaultAsset_eq hasset ..)
  intro asset _
  apply Related.bind_eq rfl
  intro _ _
  apply Related.bind_eq (h.loadWithdrawalRequest_eq hrequest _)
  intro request _
  iterate 3
    apply Related.bind_eq rfl
    intro _ _
  apply Related.bind_eq (h.loadCustody_eq htoken ..)
  intro vaultToken _
  apply Related.bind_eq rfl
  intro _ _
  apply Related.bind_eq (h.loadOwnedToken_eq hrecipient ..)
  intro recipientToken _
  apply Related.bind_eq (State.Similar.requireProtocolActive_eq (hflag _ _ hflags))
  intro _ _
  iterate 9
    apply Related.bind_eq rfl
    intro _ _
  apply Related.bind (h.transferChecked htransfers htoken hrecipient hmint ..)
  intro s₁ t₁ _ _ h₁
  apply Related.bind_eq rfl
  intro custodyAfter _
  apply Related.bind_eq (h₁.requireBalance_eq htoken ..)
  intro _ _
  apply Related.bind_eq (h₁.requireBalance_eq hrecipient ..)
  intro _ _
  apply Related.pure
  exact ⟨(h₁.writeVaultAsset _ _).writeWithdrawalRequest _ _, rfl⟩

end Withdrawal

/--
The relations leave open no pause that the instruction looks at. `set_protocol_pause` looks at all of
the flags.
-/
structure Instruction.Blind (P : UInt32 → UInt32 → Prop) (Q : Pubkey → Bool → Bool → Prop)
    (ix : Instruction Pubkey) : Prop where
  flag {flag : UInt32} : ix.pauseScope = some flag → SameFlag P flag
  flags {ctx : SetProtocolPause Pubkey} {flags : UInt32} : ix = .setProtocolPause ctx flags →
    ∀ flags flags', P flags flags' → flags = flags'
  paused {v : Pubkey} : ix.pauseVault? = some v → ∀ b b', Q v b b' → b = b'

omit [DecidableEq Pubkey] [Solana Pubkey] in
theorem process.emit_related {x y : Except Error (State Pubkey × IronVaultEvent Pubkey)}
    (h : Related (SameEnd K P Q) x y) : Related (SameEnd K P Q) (emit x) (emit y) := by
  apply h.map
  rintro ⟨s, event⟩ ⟨t, event'⟩ ⟨hsimilar, hevent⟩
  exact ⟨hsimilar, congrArg some hevent⟩

theorem process_related {s t : State Pubkey} {ix : Instruction Pubkey} {now : Int64}
    (h : s.Similar K P Q t) (htransfers : TransfersWithin K) (hP : ∀ flags, P flags flags)
    (hQ : ∀ v b, Q v b b) (hblind : ix.Blind P Q) (hkeys : ∀ key ∈ ix.accounts, K key) :
    Related (SameEnd K P Q) (process s now ix) (process t now ix) := by
  have hflag := @hblind.flag
  have hpaused := @hblind.paused
  cases ix with
  | dispatch => exact .ok ⟨h, rfl⟩
  | initializeProtocol ctx admin guardian =>
    simp only [Instruction.accounts, List.forall_mem_cons] at hkeys
    obtain ⟨-, hconfig, -⟩ := hkeys
    apply process.emit_related
    apply ctx.initializeProtocolAccount_related h hconfig (hP 0)
  | setProtocolPause ctx flags =>
    simp only [Instruction.accounts, List.forall_mem_cons] at hkeys
    obtain ⟨-, hconfig, -⟩ := hkeys
    apply process.emit_related
    apply ctx.setPause_related h hconfig (hblind.flags rfl) (hP flags)
  | createEscrow ctx escrowId recipient amount expiresAt =>
    simp only [Instruction.accounts, List.forall_mem_cons] at hkeys
    obtain ⟨-, hconfig, hmint, hmakerToken, hescrow, hescrowToken, -⟩ := hkeys
    apply process.emit_related
    apply ctx.create_related h htransfers hconfig hmint hmakerToken hescrow hescrowToken (hflag rfl)
  | releaseEscrow ctx =>
    simp only [Instruction.accounts, List.forall_mem_cons] at hkeys
    obtain ⟨-, hconfig, hescrow, hmint, hescrowToken, hrecipientToken, -⟩ := hkeys
    apply process.emit_related
    apply ctx.release_related h htransfers hconfig hescrow hmint hescrowToken hrecipientToken
      (hflag rfl)
  | refundEscrow ctx =>
    simp only [Instruction.accounts, List.forall_mem_cons] at hkeys
    obtain ⟨-, hescrow, hmint, hescrowToken, hmakerDestination, -⟩ := hkeys
    apply process.emit_related
    apply ctx.refund_related h htransfers hescrow hmint hescrowToken hmakerDestination
  | createVault ctx vaultId guardian =>
    simp only [Instruction.accounts, List.forall_mem_cons] at hkeys
    obtain ⟨-, hconfig, hvault, -⟩ := hkeys
    apply process.emit_related
    apply ctx.createVaultAccount_related h hconfig hvault (hflag rfl) (hQ _ _)
  | setVaultAuthority ctx newAuthority =>
    simp only [Instruction.accounts, List.forall_mem_cons] at hkeys
    obtain ⟨-, hconfig, hvault, -⟩ := hkeys
    apply process.emit_related
    apply ctx.setAuthority_related h hconfig hvault (hflag rfl)
  | pauseVault ctx =>
    simp only [Instruction.accounts, List.forall_mem_cons] at hkeys
    obtain ⟨-, hvault, -⟩ := hkeys
    apply process.emit_related
    apply ctx.pause_related h hvault (hpaused rfl) (hQ _ _)
  | unpauseVault ctx =>
    simp only [Instruction.accounts, List.forall_mem_cons] at hkeys
    obtain ⟨-, hvault, -⟩ := hkeys
    apply process.emit_related
    apply ctx.unpause_related h hvault (hpaused rfl) (hQ _ _)
  | registerAsset ctx =>
    simp only [Instruction.accounts, List.forall_mem_cons] at hkeys
    obtain ⟨-, hconfig, hvault, hmint, hasset, htoken, -⟩ := hkeys
    apply process.emit_related
    apply ctx.registerVaultAsset_related h hconfig hvault hmint hasset htoken (hflag rfl)
  | deposit ctx amount =>
    simp only [Instruction.accounts, List.forall_mem_cons] at hkeys
    obtain ⟨-, hvault, hmint, hasset, hsource, htoken, -⟩ := hkeys
    apply process.emit_related
    apply ctx.depositTokens_related h htransfers hvault hmint hasset hsource htoken
  | withdraw ctx amount =>
    simp only [Instruction.accounts, List.cons_append, List.nil_append, List.forall_mem_cons] at hkeys
    obtain ⟨-, hconfig, hvault, hmint, hasset, htoken, hdestination, -, hremaining⟩ := hkeys
    apply process.emit_related
    apply ctx.withdrawTokens_related h htransfers hconfig hvault hmint hasset htoken hdestination
      hremaining (hflag rfl) (hpaused rfl)
  | grantRole ctx principal permissions =>
    simp only [Instruction.accounts, List.forall_mem_cons] at hkeys
    obtain ⟨-, hconfig, hvault, hrole, -⟩ := hkeys
    apply process.emit_related
    apply ctx.grant_related h hconfig hvault hrole (hflag rfl)
  | revokeRole ctx principal =>
    simp only [Instruction.accounts, List.forall_mem_cons] at hkeys
    obtain ⟨-, hconfig, hvault, hrole, -⟩ := hkeys
    apply process.emit_related
    apply ctx.revoke_related h hconfig hvault hrole (hflag rfl)
  | updateLimits ctx policy =>
    simp only [Instruction.accounts, List.cons_append, List.nil_append, List.forall_mem_cons] at hkeys
    obtain ⟨-, hconfig, hvault, hmint, hasset, hremaining⟩ := hkeys
    apply process.emit_related
    apply ctx.update_related h hconfig hvault hmint hasset hremaining (hflag rfl)
  | requestWithdrawal ctx amount =>
    simp only [Instruction.accounts, List.cons_append, List.nil_append, List.forall_mem_cons] at hkeys
    obtain ⟨-, hconfig, hvault, hmint, hasset, hrecipient, hrequest, hremaining⟩ := hkeys
    apply process.emit_related
    apply ctx.request_related h hconfig hvault hmint hasset hrecipient hrequest hremaining
      (hflag rfl) (hpaused rfl)
  | executeWithdrawal ctx =>
    simp only [Instruction.accounts, List.forall_mem_cons] at hkeys
    obtain ⟨-, hconfig, hvault, hmint, hasset, hrequest, htoken, hrecipient, -⟩ := hkeys
    apply process.emit_related
    apply ctx.execute_related h htransfers hconfig hvault hmint hasset hrequest htoken hrecipient
      (hflag rfl) (hpaused rfl)
  | cancelWithdrawal ctx =>
    simp only [Instruction.accounts, List.cons_append, List.nil_append, List.forall_mem_cons] at hkeys
    obtain ⟨-, hvault, hrequest, hremaining⟩ := hkeys
    apply process.emit_related
    apply ctx.cancel_related h hvault hrequest hremaining

end IronVault
