import IronVault.Program.Impl.Step
import IronVault.Program.Lemmas.Protocol
import IronVault.Program.Lemmas.Escrow
import IronVault.Program.Lemmas.Vault
import IronVault.Program.Lemmas.Withdrawal

/-!
This module contains what one step can do. `Effect` says it for the whole state, one constructor per
instruction. The `Change` types below it say for one part of the state which instructions can touch
it, so that a proof about that part has to look at these only.
-/

namespace IronVault

variable {Pubkey : Type} [DecidableEq Pubkey] [Solana Pubkey]

inductive Effect (s : State Pubkey) :
    Action Pubkey → State Pubkey → Option (IronVaultEvent Pubkey) → Prop where
  | dispatch {now : Int64} : Effect s (.instruction .dispatch now) s none
  | initializeProtocol {ctx : InitializeProtocol Pubkey} {admin guardian : Pubkey} {now : Int64}
      {s' : State Pubkey} {event : IronVaultEvent Pubkey}
      (h : ctx.Accepted s admin guardian s' event) :
      Effect s (.instruction (.initializeProtocol ctx admin guardian) now) s' (some event)
  | setProtocolPause {ctx : SetProtocolPause Pubkey} {flags : UInt32} {now : Int64}
      {s' : State Pubkey} {event : IronVaultEvent Pubkey} {config : ProtocolConfig Pubkey}
      (h : ctx.Accepted s flags s' event config) :
      Effect s (.instruction (.setProtocolPause ctx flags) now) s' (some event)
  | createEscrow {ctx : CreateEscrow Pubkey} {escrowId : UInt64} {recipient : Pubkey}
      {amount : UInt64} {expiresAt now : Int64} {s' : State Pubkey} {event : IronVaultEvent Pubkey}
      (hsigner : ¬ IsProgramAddress ctx.maker)
      (h : ctx.Accepted s escrowId recipient amount expiresAt now s' event) :
      Effect s (.instruction (.createEscrow ctx escrowId recipient amount expiresAt) now) s' (some event)
  | releaseEscrow {ctx : ReleaseEscrow Pubkey} {now : Int64} {s' : State Pubkey}
      {event : IronVaultEvent Pubkey} {escrow : Escrow Pubkey}
      (h : ctx.Accepted s now s' event escrow) :
      Effect s (.instruction (.releaseEscrow ctx) now) s' (some event)
  | refundEscrow {ctx : RefundEscrow Pubkey} {now : Int64} {s' : State Pubkey}
      {event : IronVaultEvent Pubkey} {escrow : Escrow Pubkey}
      (h : ctx.Accepted s now s' event escrow) :
      Effect s (.instruction (.refundEscrow ctx) now) s' (some event)
  | createVault {ctx : CreateVault Pubkey} {vaultId : UInt64} {guardian : Pubkey} {now : Int64}
      {s' : State Pubkey} {event : IronVaultEvent Pubkey}
      (hsigner : ¬ IsProgramAddress ctx.authority)
      (h : ctx.Accepted s vaultId guardian s' event) :
      Effect s (.instruction (.createVault ctx vaultId guardian) now) s' (some event)
  | setVaultAuthority {ctx : SetVaultAuthority Pubkey} {newAuthority : Pubkey} {now : Int64}
      {s' : State Pubkey} {event : IronVaultEvent Pubkey} {vault : Vault Pubkey}
      (h : ctx.Accepted s newAuthority s' event vault) :
      Effect s (.instruction (.setVaultAuthority ctx newAuthority) now) s' (some event)
  | pauseVault {ctx : PauseVault Pubkey} {now : Int64} {s' : State Pubkey}
      {event : IronVaultEvent Pubkey} {vault : Vault Pubkey} (h : ctx.Accepted s s' event vault) :
      Effect s (.instruction (.pauseVault ctx) now) s' (some event)
  | unpauseVault {ctx : UnpauseVault Pubkey} {now : Int64} {s' : State Pubkey}
      {event : IronVaultEvent Pubkey} {vault : Vault Pubkey} (h : ctx.Accepted s s' event vault) :
      Effect s (.instruction (.unpauseVault ctx) now) s' (some event)
  | registerAsset {ctx : RegisterAsset Pubkey} {now : Int64} {s' : State Pubkey}
      {event : IronVaultEvent Pubkey} {vault : Vault Pubkey}
      (h : ctx.Accepted s now s' event vault) :
      Effect s (.instruction (.registerAsset ctx) now) s' (some event)
  | deposit {ctx : Deposit Pubkey} {amount : UInt64} {now : Int64} {s' : State Pubkey}
      {event : IronVaultEvent Pubkey} {asset : VaultAsset Pubkey}
      (hsigner : ¬ IsProgramAddress ctx.depositor) (h : ctx.Accepted s amount s' event asset) :
      Effect s (.instruction (.deposit ctx amount) now) s' (some event)
  | withdraw {ctx : Withdraw Pubkey} {amount : UInt64} {now : Int64} {s' : State Pubkey}
      {event : IronVaultEvent Pubkey} {vault : Vault Pubkey} {asset : VaultAsset Pubkey}
      {next : Int64 × UInt64} (h : ctx.Accepted s amount now s' event vault asset next) :
      Effect s (.instruction (.withdraw ctx amount) now) s' (some event)
  | grantRole {ctx : GrantRole Pubkey} {principal : Pubkey} {permissions : UInt64} {now : Int64}
      {s' : State Pubkey} {event : IronVaultEvent Pubkey} {vault : Vault Pubkey}
      (h : ctx.Accepted s principal permissions s' event vault) :
      Effect s (.instruction (.grantRole ctx principal permissions) now) s' (some event)
  | revokeRole {ctx : RevokeRole Pubkey} {principal : Pubkey} {now : Int64} {s' : State Pubkey}
      {event : IronVaultEvent Pubkey} {vault : Vault Pubkey} {role : RoleAssignment Pubkey}
      (h : ctx.Accepted s principal s' event vault role) :
      Effect s (.instruction (.revokeRole ctx principal) now) s' (some event)
  | updateLimits {ctx : UpdateLimits Pubkey} {policy : Policy} {now : Int64} {s' : State Pubkey}
      {event : IronVaultEvent Pubkey} {vault : Vault Pubkey} {asset : VaultAsset Pubkey}
      {window : Int64 × UInt64} (h : ctx.Accepted s policy now s' event vault asset window) :
      Effect s (.instruction (.updateLimits ctx policy) now) s' (some event)
  | requestWithdrawal {ctx : RequestWithdrawal Pubkey} {amount : UInt64} {now : Int64}
      {s' : State Pubkey} {event : IronVaultEvent Pubkey} {vault : Vault Pubkey}
      {asset : VaultAsset Pubkey} {recipientToken : TokenAccount Pubkey}
      {executeAfter expiresAt : Int64} {nextWithdrawalId : UInt64}
      (h : ctx.Accepted s amount now s' event vault asset recipientToken executeAfter expiresAt
        nextWithdrawalId) :
      Effect s (.instruction (.requestWithdrawal ctx amount) now) s' (some event)
  | executeWithdrawal {ctx : ExecuteWithdrawal Pubkey} {now : Int64} {s' : State Pubkey}
      {event : IronVaultEvent Pubkey} {vault : Vault Pubkey} {asset : VaultAsset Pubkey}
      {request : WithdrawalRequest Pubkey} {next : Int64 × UInt64}
      (h : ctx.Accepted s now s' event vault asset request next) :
      Effect s (.instruction (.executeWithdrawal ctx) now) s' (some event)
  | cancelWithdrawal {ctx : CancelWithdrawal Pubkey} {now : Int64} {s' : State Pubkey}
      {event : IronVaultEvent Pubkey} {vault : Vault Pubkey} {request : WithdrawalRequest Pubkey}
      (h : ctx.Accepted s s' event vault request) :
      Effect s (.instruction (.cancelWithdrawal ctx) now) s' (some event)
  | thirdParty {token : Pubkey → Option (TokenAccount Pubkey)} {mint : Pubkey → Option (Mint Pubkey)}
      (h : ThirdParty s token mint) : Effect s .thirdParty { s with token, mint } none

omit [DecidableEq Pubkey] [Solana Pubkey] in
theorem process.emit_eq_ok {result : Except Error (State Pubkey × IronVaultEvent Pubkey)}
    {s' : State Pubkey} {event : Option (IronVaultEvent Pubkey)} :
    process.emit result = .ok (s', event) ↔ ∃ e, some e = event ∧ result = .ok (s', e) := by
  rcases result with _ | ⟨t, e⟩
  . simp [process.emit, Except.map]
  . simp only [process.emit, Except.map, Except.ok.injEq, Prod.mk.injEq]
    constructor
    . rintro ⟨rfl, rfl⟩
      exact ⟨e, rfl, rfl, rfl⟩
    . rintro ⟨_, rfl, rfl, rfl⟩
      exact ⟨rfl, rfl⟩

/--
What the handler of an instruction says about a call that succeeds.
-/
def Instruction.Accepted (s : State Pubkey) (now : Int64) (s' : State Pubkey)
    (event : Option (IronVaultEvent Pubkey)) : Instruction Pubkey → Prop
  | .dispatch => s' = s ∧ event = none
  | .initializeProtocol ctx admin guardian => ∃ e ∈ event, ctx.Accepted s admin guardian s' e
  | .setProtocolPause ctx flags => ∃ e ∈ event, ∃ config, ctx.Accepted s flags s' e config
  | .createEscrow ctx escrowId recipient amount expiresAt =>
    ∃ e ∈ event, ctx.Accepted s escrowId recipient amount expiresAt now s' e
  | .releaseEscrow ctx => ∃ e ∈ event, ∃ escrow, ctx.Accepted s now s' e escrow
  | .refundEscrow ctx => ∃ e ∈ event, ∃ escrow, ctx.Accepted s now s' e escrow
  | .createVault ctx vaultId guardian => ∃ e ∈ event, ctx.Accepted s vaultId guardian s' e
  | .setVaultAuthority ctx newAuthority =>
    ∃ e ∈ event, ∃ vault, ctx.Accepted s newAuthority s' e vault
  | .pauseVault ctx => ∃ e ∈ event, ∃ vault, ctx.Accepted s s' e vault
  | .unpauseVault ctx => ∃ e ∈ event, ∃ vault, ctx.Accepted s s' e vault
  | .registerAsset ctx => ∃ e ∈ event, ∃ vault, ctx.Accepted s now s' e vault
  | .deposit ctx amount => ∃ e ∈ event, ∃ asset, ctx.Accepted s amount s' e asset
  | .withdraw ctx amount =>
    ∃ e ∈ event, ∃ vault asset next, ctx.Accepted s amount now s' e vault asset next
  | .grantRole ctx principal permissions =>
    ∃ e ∈ event, ∃ vault, ctx.Accepted s principal permissions s' e vault
  | .revokeRole ctx principal => ∃ e ∈ event, ∃ vault role, ctx.Accepted s principal s' e vault role
  | .updateLimits ctx policy =>
    ∃ e ∈ event, ∃ vault asset window, ctx.Accepted s policy now s' e vault asset window
  | .requestWithdrawal ctx amount =>
    ∃ e ∈ event, ∃ vault asset recipientToken executeAfter expiresAt nextWithdrawalId,
      ctx.Accepted s amount now s' e vault asset recipientToken executeAfter expiresAt
        nextWithdrawalId
  | .executeWithdrawal ctx =>
    ∃ e ∈ event, ∃ vault asset request next, ctx.Accepted s now s' e vault asset request next
  | .cancelWithdrawal ctx => ∃ e ∈ event, ∃ vault request, ctx.Accepted s s' e vault request

theorem process_accepted {s s' : State Pubkey} {now : Int64} {ix : Instruction Pubkey}
    {event : Option (IronVaultEvent Pubkey)} (h : process s now ix = .ok (s', event)) :
    ix.Accepted s now s' event := by
  cases ix with
  | dispatch =>
    simp only [process, Except.ok.injEq, Prod.mk.injEq] at h
    exact ⟨h.1.symm, h.2.symm⟩
  | initializeProtocol =>
    obtain ⟨e, he, hcall⟩ := process.emit_eq_ok.mp h
    exact ⟨e, he.symm, InitializeProtocol.initializeProtocolAccount_ok hcall⟩
  | setProtocolPause =>
    obtain ⟨e, he, hcall⟩ := process.emit_eq_ok.mp h
    exact ⟨e, he.symm, SetProtocolPause.setPause_ok hcall⟩
  | createEscrow =>
    obtain ⟨e, he, hcall⟩ := process.emit_eq_ok.mp h
    exact ⟨e, he.symm, CreateEscrow.create_ok hcall⟩
  | releaseEscrow =>
    obtain ⟨e, he, hcall⟩ := process.emit_eq_ok.mp h
    exact ⟨e, he.symm, ReleaseEscrow.release_ok hcall⟩
  | refundEscrow =>
    obtain ⟨e, he, hcall⟩ := process.emit_eq_ok.mp h
    exact ⟨e, he.symm, RefundEscrow.refund_ok hcall⟩
  | createVault =>
    obtain ⟨e, he, hcall⟩ := process.emit_eq_ok.mp h
    exact ⟨e, he.symm, CreateVault.createVaultAccount_ok hcall⟩
  | setVaultAuthority =>
    obtain ⟨e, he, hcall⟩ := process.emit_eq_ok.mp h
    exact ⟨e, he.symm, SetVaultAuthority.setAuthority_ok hcall⟩
  | pauseVault =>
    obtain ⟨e, he, hcall⟩ := process.emit_eq_ok.mp h
    exact ⟨e, he.symm, PauseVault.pause_ok hcall⟩
  | unpauseVault =>
    obtain ⟨e, he, hcall⟩ := process.emit_eq_ok.mp h
    exact ⟨e, he.symm, UnpauseVault.unpause_ok hcall⟩
  | registerAsset =>
    obtain ⟨e, he, hcall⟩ := process.emit_eq_ok.mp h
    exact ⟨e, he.symm, RegisterAsset.registerVaultAsset_ok hcall⟩
  | deposit =>
    obtain ⟨e, he, hcall⟩ := process.emit_eq_ok.mp h
    exact ⟨e, he.symm, Deposit.depositTokens_ok hcall⟩
  | withdraw =>
    obtain ⟨e, he, hcall⟩ := process.emit_eq_ok.mp h
    exact ⟨e, he.symm, Withdraw.withdrawTokens_ok hcall⟩
  | grantRole =>
    obtain ⟨e, he, hcall⟩ := process.emit_eq_ok.mp h
    exact ⟨e, he.symm, GrantRole.grant_ok hcall⟩
  | revokeRole =>
    obtain ⟨e, he, hcall⟩ := process.emit_eq_ok.mp h
    exact ⟨e, he.symm, RevokeRole.revoke_ok hcall⟩
  | updateLimits =>
    obtain ⟨e, he, hcall⟩ := process.emit_eq_ok.mp h
    exact ⟨e, he.symm, UpdateLimits.update_ok hcall⟩
  | requestWithdrawal =>
    obtain ⟨e, he, hcall⟩ := process.emit_eq_ok.mp h
    exact ⟨e, he.symm, RequestWithdrawal.request_ok hcall⟩
  | executeWithdrawal =>
    obtain ⟨e, he, hcall⟩ := process.emit_eq_ok.mp h
    exact ⟨e, he.symm, ExecuteWithdrawal.execute_ok hcall⟩
  | cancelWithdrawal =>
    obtain ⟨e, he, hcall⟩ := process.emit_eq_ok.mp h
    exact ⟨e, he.symm, CancelWithdrawal.cancel_ok hcall⟩

theorem Step.effect {s s' : State Pubkey} {a : Action Pubkey} (h : Step s a s') :
    ∃ event, emitted s a = event ∧ Effect s a s' event := by
  cases h with
  | thirdParty h => exact ⟨_, rfl, .thirdParty h⟩
  | @instruction _ now ix event hsigner hok =>
    have hemit : emitted s (.instruction ix now) = event := by simp [emitted, hok]
    refine ⟨event, hemit, ?_⟩
    clear hemit
    cases ix with
    | dispatch =>
      obtain ⟨rfl, rfl⟩ := process_accepted hok
      exact .dispatch
    | initializeProtocol =>
      obtain ⟨e, rfl, h⟩ := process_accepted hok
      exact .initializeProtocol h
    | setProtocolPause =>
      obtain ⟨e, rfl, _, h⟩ := process_accepted hok
      exact .setProtocolPause h
    | createEscrow =>
      obtain ⟨e, rfl, h⟩ := process_accepted hok
      exact .createEscrow (hsigner _ rfl) h
    | releaseEscrow =>
      obtain ⟨e, rfl, _, h⟩ := process_accepted hok
      exact .releaseEscrow h
    | refundEscrow =>
      obtain ⟨e, rfl, _, h⟩ := process_accepted hok
      exact .refundEscrow h
    | createVault =>
      obtain ⟨e, rfl, h⟩ := process_accepted hok
      exact .createVault (hsigner _ rfl) h
    | setVaultAuthority =>
      obtain ⟨e, rfl, _, h⟩ := process_accepted hok
      exact .setVaultAuthority h
    | pauseVault =>
      obtain ⟨e, rfl, _, h⟩ := process_accepted hok
      exact .pauseVault h
    | unpauseVault =>
      obtain ⟨e, rfl, _, h⟩ := process_accepted hok
      exact .unpauseVault h
    | registerAsset =>
      obtain ⟨e, rfl, _, h⟩ := process_accepted hok
      exact .registerAsset h
    | deposit =>
      obtain ⟨e, rfl, _, h⟩ := process_accepted hok
      exact .deposit (hsigner _ rfl) h
    | withdraw =>
      obtain ⟨e, rfl, _, _, _, h⟩ := process_accepted hok
      exact .withdraw h
    | grantRole =>
      obtain ⟨e, rfl, _, h⟩ := process_accepted hok
      exact .grantRole h
    | revokeRole =>
      obtain ⟨e, rfl, _, _, h⟩ := process_accepted hok
      exact .revokeRole h
    | updateLimits =>
      obtain ⟨e, rfl, _, _, _, h⟩ := process_accepted hok
      exact .updateLimits h
    | requestWithdrawal =>
      obtain ⟨e, rfl, _, _, _, _, _, _, h⟩ := process_accepted hok
      exact .requestWithdrawal h
    | executeWithdrawal =>
      obtain ⟨e, rfl, _, _, _, _, h⟩ := process_accepted hok
      exact .executeWithdrawal h
    | cancelWithdrawal =>
      obtain ⟨e, rfl, _, _, h⟩ := process_accepted hok
      exact .cancelWithdrawal h

inductive ConfigChange (s : State Pubkey) : Action Pubkey → State Pubkey → Prop where
  | same {a : Action Pubkey} {s' : State Pubkey} (h : s'.protocolConfig = s.protocolConfig) :
      ConfigChange s a s'
  | initialized {ctx : InitializeProtocol Pubkey} {admin guardian : Pubkey} {now : Int64}
      {s' : State Pubkey} {event : IronVaultEvent Pubkey}
      (h : ctx.Accepted s admin guardian s' event) :
      ConfigChange s (.instruction (.initializeProtocol ctx admin guardian) now) s'
  | setPause {ctx : SetProtocolPause Pubkey} {flags : UInt32} {now : Int64}
      {s' : State Pubkey} {event : IronVaultEvent Pubkey} {config : ProtocolConfig Pubkey}
      (h : ctx.Accepted s flags s' event config) :
      ConfigChange s (.instruction (.setProtocolPause ctx flags) now) s'

theorem Step.configChange {s s' : State Pubkey} {a : Action Pubkey} (h : Step s a s') :
    ConfigChange s a s' := by
  obtain ⟨event, -, heffect⟩ := h.effect
  cases heffect with
  | dispatch => exact .same rfl
  | thirdParty => exact .same rfl
  | initializeProtocol h => exact .initialized h
  | setProtocolPause h => exact .setPause h
  | createEscrow _ h => exact .same (by rw [h.post_eq])
  | createVault _ h => exact .same (by rw [h.post_eq])
  | deposit _ h => exact .same (by rw [h.post_eq])
  | releaseEscrow h => exact .same (by rw [h.settled.post_eq])
  | refundEscrow h => exact .same (by rw [h.settled.post_eq])
  | _ h => exact .same (by rw [h.post_eq])

inductive EscrowChange (s : State Pubkey) : Action Pubkey → State Pubkey → Prop where
  | same {a : Action Pubkey} {s' : State Pubkey} (h : s'.escrow = s.escrow) : EscrowChange s a s'
  | create {ctx : CreateEscrow Pubkey} {escrowId : UInt64} {recipient : Pubkey} {amount : UInt64}
      {expiresAt now : Int64} {s' : State Pubkey} {event : IronVaultEvent Pubkey}
      (h : ctx.Accepted s escrowId recipient amount expiresAt now s' event) :
      EscrowChange s (.instruction (.createEscrow ctx escrowId recipient amount expiresAt) now) s'
  | release {ctx : ReleaseEscrow Pubkey} {now : Int64} {s' : State Pubkey}
      {event : IronVaultEvent Pubkey} {escrow : Escrow Pubkey}
      (h : ctx.Accepted s now s' event escrow) :
      EscrowChange s (.instruction (.releaseEscrow ctx) now) s'
  | refund {ctx : RefundEscrow Pubkey} {now : Int64} {s' : State Pubkey}
      {event : IronVaultEvent Pubkey} {escrow : Escrow Pubkey}
      (h : ctx.Accepted s now s' event escrow) :
      EscrowChange s (.instruction (.refundEscrow ctx) now) s'

theorem Step.escrowChange {s s' : State Pubkey} {a : Action Pubkey} (h : Step s a s') :
    EscrowChange s a s' := by
  obtain ⟨event, -, heffect⟩ := h.effect
  cases heffect with
  | dispatch => exact .same rfl
  | thirdParty => exact .same rfl
  | createEscrow _ h => exact .create h
  | releaseEscrow h => exact .release h
  | refundEscrow h => exact .refund h
  | createVault _ h => exact .same (by rw [h.post_eq])
  | deposit _ h => exact .same (by rw [h.post_eq])
  | _ h => exact .same (by rw [h.post_eq])

inductive VaultChange (s : State Pubkey) : Action Pubkey → State Pubkey → Prop where
  | same {a : Action Pubkey} {s' : State Pubkey} (h : s'.vault = s.vault) : VaultChange s a s'
  | create {ctx : CreateVault Pubkey} {vaultId : UInt64} {guardian : Pubkey} {now : Int64}
      {s' : State Pubkey} {event : IronVaultEvent Pubkey}
      (h : ctx.Accepted s vaultId guardian s' event) :
      VaultChange s (.instruction (.createVault ctx vaultId guardian) now) s'
  | setAuthority {ctx : SetVaultAuthority Pubkey} {newAuthority : Pubkey} {now : Int64}
      {s' : State Pubkey} {event : IronVaultEvent Pubkey} {vault : Vault Pubkey}
      (h : ctx.Accepted s newAuthority s' event vault) :
      VaultChange s (.instruction (.setVaultAuthority ctx newAuthority) now) s'
  | pause {ctx : PauseVault Pubkey} {now : Int64} {s' : State Pubkey}
      {event : IronVaultEvent Pubkey} {vault : Vault Pubkey} (h : ctx.Accepted s s' event vault) :
      VaultChange s (.instruction (.pauseVault ctx) now) s'
  | unpause {ctx : UnpauseVault Pubkey} {now : Int64} {s' : State Pubkey}
      {event : IronVaultEvent Pubkey} {vault : Vault Pubkey} (h : ctx.Accepted s s' event vault) :
      VaultChange s (.instruction (.unpauseVault ctx) now) s'
  | request {ctx : RequestWithdrawal Pubkey} {amount : UInt64} {now : Int64}
      {s' : State Pubkey} {event : IronVaultEvent Pubkey} {vault : Vault Pubkey}
      {asset : VaultAsset Pubkey} {recipientToken : TokenAccount Pubkey}
      {executeAfter expiresAt : Int64} {nextWithdrawalId : UInt64}
      (h : ctx.Accepted s amount now s' event vault asset recipientToken executeAfter expiresAt
        nextWithdrawalId) :
      VaultChange s (.instruction (.requestWithdrawal ctx amount) now) s'

theorem Step.vaultChange {s s' : State Pubkey} {a : Action Pubkey} (h : Step s a s') :
    VaultChange s a s' := by
  obtain ⟨event, -, heffect⟩ := h.effect
  cases heffect with
  | dispatch => exact .same rfl
  | thirdParty => exact .same rfl
  | createVault _ h => exact .create h
  | setVaultAuthority h => exact .setAuthority h
  | pauseVault h => exact .pause h
  | unpauseVault h => exact .unpause h
  | requestWithdrawal h => exact .request h
  | createEscrow _ h => exact .same (by rw [h.post_eq])
  | deposit _ h => exact .same (by rw [h.post_eq])
  | releaseEscrow h => exact .same (by rw [h.settled.post_eq])
  | refundEscrow h => exact .same (by rw [h.settled.post_eq])
  | _ h => exact .same (by rw [h.post_eq])

inductive AssetChange (s : State Pubkey) : Action Pubkey → State Pubkey → Prop where
  | same {a : Action Pubkey} {s' : State Pubkey} (h : s'.vaultAsset = s.vaultAsset) :
      AssetChange s a s'
  | register {ctx : RegisterAsset Pubkey} {now : Int64} {s' : State Pubkey}
      {event : IronVaultEvent Pubkey} {vault : Vault Pubkey}
      (h : ctx.Accepted s now s' event vault) :
      AssetChange s (.instruction (.registerAsset ctx) now) s'
  | updateLimits {ctx : UpdateLimits Pubkey} {policy : Policy} {now : Int64} {s' : State Pubkey}
      {event : IronVaultEvent Pubkey} {vault : Vault Pubkey} {asset : VaultAsset Pubkey}
      {window : Int64 × UInt64} (h : ctx.Accepted s policy now s' event vault asset window) :
      AssetChange s (.instruction (.updateLimits ctx policy) now) s'
  | withdraw {ctx : Withdraw Pubkey} {amount : UInt64} {now : Int64} {s' : State Pubkey}
      {event : IronVaultEvent Pubkey} {vault : Vault Pubkey} {asset : VaultAsset Pubkey}
      {next : Int64 × UInt64} (h : ctx.Accepted s amount now s' event vault asset next) :
      AssetChange s (.instruction (.withdraw ctx amount) now) s'
  | execute {ctx : ExecuteWithdrawal Pubkey} {now : Int64} {s' : State Pubkey}
      {event : IronVaultEvent Pubkey} {vault : Vault Pubkey} {asset : VaultAsset Pubkey}
      {request : WithdrawalRequest Pubkey} {next : Int64 × UInt64}
      (h : ctx.Accepted s now s' event vault asset request next) :
      AssetChange s (.instruction (.executeWithdrawal ctx) now) s'

theorem Step.assetChange {s s' : State Pubkey} {a : Action Pubkey} (h : Step s a s') :
    AssetChange s a s' := by
  obtain ⟨event, -, heffect⟩ := h.effect
  cases heffect with
  | dispatch => exact .same rfl
  | thirdParty => exact .same rfl
  | registerAsset h => exact .register h
  | updateLimits h => exact .updateLimits h
  | withdraw h => exact .withdraw h
  | executeWithdrawal h => exact .execute h
  | createEscrow _ h => exact .same (by rw [h.post_eq])
  | createVault _ h => exact .same (by rw [h.post_eq])
  | deposit _ h => exact .same (by rw [h.post_eq])
  | releaseEscrow h => exact .same (by rw [h.settled.post_eq])
  | refundEscrow h => exact .same (by rw [h.settled.post_eq])
  | _ h => exact .same (by rw [h.post_eq])

inductive RoleChange (s : State Pubkey) : Action Pubkey → State Pubkey → Prop where
  | same {a : Action Pubkey} {s' : State Pubkey} (h : s'.roleAssignment = s.roleAssignment) :
      RoleChange s a s'
  | grant {ctx : GrantRole Pubkey} {principal : Pubkey} {permissions : UInt64} {now : Int64}
      {s' : State Pubkey} {event : IronVaultEvent Pubkey} {vault : Vault Pubkey}
      (h : ctx.Accepted s principal permissions s' event vault) :
      RoleChange s (.instruction (.grantRole ctx principal permissions) now) s'
  | revoke {ctx : RevokeRole Pubkey} {principal : Pubkey} {now : Int64} {s' : State Pubkey}
      {event : IronVaultEvent Pubkey} {vault : Vault Pubkey} {role : RoleAssignment Pubkey}
      (h : ctx.Accepted s principal s' event vault role) :
      RoleChange s (.instruction (.revokeRole ctx principal) now) s'

theorem Step.roleChange {s s' : State Pubkey} {a : Action Pubkey} (h : Step s a s') :
    RoleChange s a s' := by
  obtain ⟨event, -, heffect⟩ := h.effect
  cases heffect with
  | dispatch => exact .same rfl
  | thirdParty => exact .same rfl
  | grantRole h => exact .grant h
  | revokeRole h => exact .revoke h
  | createEscrow _ h => exact .same (by rw [h.post_eq])
  | createVault _ h => exact .same (by rw [h.post_eq])
  | deposit _ h => exact .same (by rw [h.post_eq])
  | releaseEscrow h => exact .same (by rw [h.settled.post_eq])
  | refundEscrow h => exact .same (by rw [h.settled.post_eq])
  | _ h => exact .same (by rw [h.post_eq])

inductive RequestChange (s : State Pubkey) : Action Pubkey → State Pubkey → Prop where
  | same {a : Action Pubkey} {s' : State Pubkey}
      (h : s'.withdrawalRequest = s.withdrawalRequest) : RequestChange s a s'
  | request {ctx : RequestWithdrawal Pubkey} {amount : UInt64} {now : Int64}
      {s' : State Pubkey} {event : IronVaultEvent Pubkey} {vault : Vault Pubkey}
      {asset : VaultAsset Pubkey} {recipientToken : TokenAccount Pubkey}
      {executeAfter expiresAt : Int64} {nextWithdrawalId : UInt64}
      (h : ctx.Accepted s amount now s' event vault asset recipientToken executeAfter expiresAt
        nextWithdrawalId) :
      RequestChange s (.instruction (.requestWithdrawal ctx amount) now) s'
  | execute {ctx : ExecuteWithdrawal Pubkey} {now : Int64} {s' : State Pubkey}
      {event : IronVaultEvent Pubkey} {vault : Vault Pubkey} {asset : VaultAsset Pubkey}
      {request : WithdrawalRequest Pubkey} {next : Int64 × UInt64}
      (h : ctx.Accepted s now s' event vault asset request next) :
      RequestChange s (.instruction (.executeWithdrawal ctx) now) s'
  | cancel {ctx : CancelWithdrawal Pubkey} {now : Int64} {s' : State Pubkey}
      {event : IronVaultEvent Pubkey} {vault : Vault Pubkey} {request : WithdrawalRequest Pubkey}
      (h : ctx.Accepted s s' event vault request) :
      RequestChange s (.instruction (.cancelWithdrawal ctx) now) s'

theorem Step.requestChange {s s' : State Pubkey} {a : Action Pubkey} (h : Step s a s') :
    RequestChange s a s' := by
  obtain ⟨event, -, heffect⟩ := h.effect
  cases heffect with
  | dispatch => exact .same rfl
  | thirdParty => exact .same rfl
  | requestWithdrawal h => exact .request h
  | executeWithdrawal h => exact .execute h
  | cancelWithdrawal h => exact .cancel h
  | createEscrow _ h => exact .same (by rw [h.post_eq])
  | createVault _ h => exact .same (by rw [h.post_eq])
  | deposit _ h => exact .same (by rw [h.post_eq])
  | releaseEscrow h => exact .same (by rw [h.settled.post_eq])
  | refundEscrow h => exact .same (by rw [h.settled.post_eq])
  | _ h => exact .same (by rw [h.post_eq])

end IronVault
