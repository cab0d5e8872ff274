import IronVault.Client.Lemmas.Dispatch
import IronVault.Client.Symbolic
import IronVault.Program.EscrowLifecycle
import IronVault.Program.Lemmas.Authority
import IronVault.Program.Timelock

/-!
This module contains that the accounts a method of the client returns are what the caller asked for,
from the moment the transaction is confirmed and for ever, whatever happens on chain and whatever the
connection has answered.
-/

namespace IronVault.Client

variable {Pubkey : Type} [DecidableEq Pubkey] [Solana Pubkey] [Borsh Pubkey] [Web3 Pubkey]

open Web3

section Statement

structure EscrowMatches (payer : Pubkey) (params : CreateEscrowParams Pubkey)
    (accounts : CreateEscrowAccounts Pubkey) (escrow : Escrow Pubkey) : Prop where
  key_eq : accounts.escrow = address (.escrow payer escrow.escrowId)
  token_eq : accounts.escrowToken = address (.escrowToken accounts.escrow)
  maker_eq : escrow.maker = payer
  recipient_eq : asPublicKey params.recipient = .ok escrow.recipient
  mint_eq : asPublicKey params.mint = .ok escrow.mint
  tokenProgram_eq : escrow.tokenProgram = accounts.tokenProgram
  amount_eq : Timestamp.Denotes params.amount escrow.amount.toNat
  expiresAt_eq : params.expiresAt.Denotes escrow.expiresAt.toInt
  returned_eq : accounts.escrowId = escrow.escrowId.toNat
  id_eq : ∀ id ∈ params.escrowId, Timestamp.Denotes id escrow.escrowId.toNat

structure VaultMatches (payer : Pubkey) (params : CreateVaultParams Pubkey)
    (accounts : CreateVaultAccounts Pubkey) (vault : Vault Pubkey) : Prop where
  key_eq : accounts.vault = address (.vault payer vault.vaultId)
  namespaceAuthority_eq : vault.namespaceAuthority = payer
  guardian_eq : asPublicKey params.guardian = .ok vault.guardian
  returned_eq : accounts.vaultId = vault.vaultId.toNat
  id_eq : ∀ id ∈ params.vaultId, Timestamp.Denotes id vault.vaultId.toNat

structure AssetMatches (params : VaultMintParams Pubkey) (vaultAsset vaultToken : Pubkey)
    (asset : VaultAsset Pubkey) : Prop where
  key_eq : vaultAsset = address (.vaultAsset asset.vault asset.mint)
  token_eq : vaultToken = address (.vaultToken asset.vault asset.mint)
  vault_eq : asPublicKey params.vault = .ok asset.vault
  mint_eq : asPublicKey params.mint = .ok asset.mint

structure RequestMatches (payer : Pubkey) (params : RequestWithdrawalParams Pubkey)
    (accounts : RequestWithdrawalAccounts Pubkey) (request : WithdrawalRequest Pubkey) : Prop where
  key_eq : accounts.withdrawalRequest = address (.withdrawal request.vault request.withdrawalId)
  proposer_eq : request.proposer = payer
  vault_eq : asPublicKey params.vault = .ok request.vault
  mint_eq : asPublicKey params.mint = .ok request.mint
  amount_eq : Timestamp.Denotes params.amount request.amount.toNat
  -- A recipient account that is given is recorded, whoever owns it.
  recipient_eq : ∃ recipient tokenProgram, asPublicKey params.recipient = .ok recipient ∧
    (tokenProgram = Web3.tokenProgramAddress ∨ tokenProgram = Web3.token2022ProgramAddress) ∧
    Destined params.recipientToken
      (deriveAssociatedTokenAddress request.mint recipient tokenProgram)
      request.recipientTokenAccount
  recipientToken_eq : request.recipientTokenAccount = accounts.recipientToken
  vaultAsset_eq : request.vaultAsset = accounts.vaultAsset
  returned_eq : accounts.vault = request.vault ∧ accounts.withdrawalId = request.withdrawalId.toNat

/--
What the chain says about the accounts that were returned to `payer`.
-/
def Receipt.Holds (payer : Pubkey) (s : State Pubkey) : Receipt Pubkey → Prop
  | .createEscrow params accounts =>
    ∃ escrow, s.escrow accounts.escrow = some escrow ∧ EscrowMatches payer params accounts escrow
  | .releaseEscrow params accounts =>
    ∃ escrow, s.escrow accounts.escrow = some escrow ∧ escrow.maker = payer ∧
      escrow.status = .released ∧
      -- The id is only used when no address is given.
      (given params.escrow = none → Timestamp.Denotes params.escrowId escrow.escrowId.toNat)
  | .refundEscrow _ accounts =>
    ∃ escrow, s.escrow accounts.escrow = some escrow ∧ escrow.status = .refunded
  | .createVault params accounts =>
    ∃ vault, s.vault accounts.vault = some vault ∧ VaultMatches payer params accounts vault
  | .registerAsset params accounts =>
    ∃ asset, s.vaultAsset accounts.vaultAsset = some asset ∧
      AssetMatches params accounts.vaultAsset accounts.vaultToken asset ∧
      asset.vault = accounts.vault ∧ asset.tokenProgram = accounts.tokenProgram
  | .deposit params accounts =>
    ∃ asset, s.vaultAsset accounts.vaultAsset = some asset ∧
      AssetMatches params.toVaultMintParams accounts.vaultAsset accounts.vaultToken asset ∧
      asset.vault = accounts.vault
  | .requestWithdrawal params accounts =>
    ∃ request, s.withdrawalRequest accounts.withdrawalRequest = some request ∧
      RequestMatches payer params accounts request

/--
The two methods that pay from an account of the caller: its source, its destination and the amount.
-/
def Receipt.payment : Receipt Pubkey → Option (Pubkey × Pubkey × Integer)
  | .createEscrow params accounts => some (accounts.makerToken, accounts.escrowToken, params.amount)
  | .deposit params accounts => some (accounts.sourceToken, accounts.vaultToken, params.amount)
  | _ => none

def Transferred (s s' : State Pubkey) (source destination : Pubkey) (amount : Nat) : Prop :=
  s.balance source = s'.balance source + amount ∧
    s'.balance destination = s.balance destination + amount

end Statement

section Persistence

variable {s s' : State Pubkey} {tr : List (Transition (State Pubkey) (Action Pubkey))}

omit [Borsh Pubkey] [Web3 Pubkey] in
theorem run_vault_some (run : Run Step s tr s') {key : Pubkey} {vault : Vault Pubkey}
    (hvault : s.vault key = some vault) :
    ∃ authority nextWithdrawalId paused,
      s'.vault key = some { vault with authority, nextWithdrawalId, paused } := by
  apply run.invariant (P := fun t => ∃ authority nextWithdrawalId paused,
    t.vault key = some { vault with authority, nextWithdrawalId, paused })
  . exact ⟨_, _, _, hvault⟩
  . rintro t a u - hstep ⟨authority, nextWithdrawalId, paused, hmid⟩
    cases hstep.vault_evolves hmid with
    | same hpost => exact ⟨_, _, _, hpost⟩
    | rotated _ _ hpost => exact ⟨_, _, _, hpost⟩
    | paused _ _ hpost => exact ⟨_, _, _, hpost⟩
    | unpaused _ _ hpost => exact ⟨_, _, _, hpost⟩
    | requested _ _ hpost => exact ⟨_, _, _, hpost⟩

omit [Borsh Pubkey] [Web3 Pubkey] in
theorem step_vaultAsset_some {a : Action Pubkey} (hstep : Step s a s') {key : Pubkey}
    {asset : VaultAsset Pubkey} (hasset : s.vaultAsset key = some asset) :
    ∃ asset', s'.vaultAsset key = some asset' ∧ asset'.vault = asset.vault ∧
      asset'.mint = asset.mint ∧ asset'.tokenProgram = asset.tokenProgram := by
  have hupdate {k : Pubkey} {old new : VaultAsset Pubkey} (hold : s.vaultAsset k = some old)
      (hpost : s'.vaultAsset = Function.update s.vaultAsset k (some new))
      (hnew : new.vault = old.vault ∧ new.mint = old.mint ∧ new.tokenProgram = old.tokenProgram) :
      ∃ asset', s'.vaultAsset key = some asset' ∧ asset'.vault = asset.vault ∧
        asset'.mint = asset.mint ∧ asset'.tokenProgram = asset.tokenProgram := by
    rcases Function.update_cases hasset hold hpost with ⟨-, rfl, hpost⟩ | ⟨-, hpost⟩
    . exact ⟨new, hpost, hnew⟩
    . exact ⟨asset, hpost, rfl, rfl, rfl⟩
  cases hstep.assetChange with
  | same h => exact ⟨asset, by rw [h, hasset], rfl, rfl, rfl⟩
  | register h =>
    refine ⟨asset, ?_, rfl, rfl, rfl⟩
    apply Function.update_of_vacant hasset (State.vacant_of_unallocated h.fresh).vaultAsset
    exact congrArg State.vaultAsset h.post_eq
  | updateLimits h =>
    have hpost := congrArg State.vaultAsset h.post_eq
    exact hupdate h.asset_eq hpost ⟨rfl, rfl, rfl⟩
  | withdraw h => exact hupdate h.outflow.asset_eq h.outflow.asset_post ⟨rfl, rfl, rfl⟩
  | execute h => exact hupdate h.outflow.asset_eq h.outflow.asset_post ⟨rfl, rfl, rfl⟩

omit [Borsh Pubkey] [Web3 Pubkey] in
theorem run_vaultAsset_some (run : Run Step s tr s') {key : Pubkey} {asset : VaultAsset Pubkey}
    (hasset : s.vaultAsset key = some asset) :
    ∃ asset', s'.vaultAsset key = some asset' ∧ asset'.vault = asset.vault ∧
      asset'.mint = asset.mint ∧ asset'.tokenProgram = asset.tokenProgram := by
  apply run.invariant (P := fun t => ∃ asset', t.vaultAsset key = some asset' ∧
    asset'.vault = asset.vault ∧ asset'.mint = asset.mint ∧
    asset'.tokenProgram = asset.tokenProgram)
  . exact ⟨asset, hasset, rfl, rfl, rfl⟩
  . rintro t a u - hstep ⟨asset₁, hmid, hvault, hmint, hprogram⟩
    obtain ⟨asset₂, hpost, hvault', hmint', hprogram'⟩ := step_vaultAsset_some hstep hmid
    exact ⟨asset₂, hpost, hvault'.trans hvault, hmint'.trans hmint, hprogram'.trans hprogram⟩

omit [Borsh Pubkey] in
theorem AssetMatches.congr {params : VaultMintParams Pubkey} {vaultAsset vaultToken : Pubkey}
    {asset asset' : VaultAsset Pubkey} (h : AssetMatches params vaultAsset vaultToken asset)
    (hvault : asset'.vault = asset.vault) (hmint : asset'.mint = asset.mint) :
    AssetMatches params vaultAsset vaultToken asset' := by
  constructor
  . rw [hvault, hmint]
    exact h.key_eq
  . rw [hvault, hmint]
    exact h.token_eq
  . rw [hvault]
    exact h.vault_eq
  . rw [hmint]
    exact h.mint_eq

/--
Nothing that a receipt says depends on what can change.
-/
theorem Receipt.Holds.run {payer : Pubkey} {receipt : Receipt Pubkey} (h : receipt.Holds payer s)
    (run : Run Step s tr s') : receipt.Holds payer s' := by
  cases receipt with
  | createEscrow params accounts =>
    obtain ⟨escrow, hescrow, hmatches⟩ := h
    obtain ⟨status, hpost⟩ := Run.escrow_some run hescrow
    obtain ⟨h₁, h₂, h₃, h₄, h₅, h₆, h₇, h₈, h₉, h₁₀⟩ := hmatches
    exact ⟨_, hpost, h₁, h₂, h₃, h₄, h₅, h₆, h₇, h₈, h₉, h₁₀⟩
  | releaseEscrow params accounts =>
    obtain ⟨escrow, hescrow, hmaker, hstatus, hid⟩ := h
    have hpost := Run.escrow_status run hescrow (by simp [hstatus])
    exact ⟨escrow, hpost, hmaker, hstatus, hid⟩
  | refundEscrow params accounts =>
    obtain ⟨escrow, hescrow, hstatus⟩ := h
    exact ⟨escrow, Run.escrow_status run hescrow (by simp [hstatus]), hstatus⟩
  | createVault params accounts =>
    obtain ⟨vault, hvault, hmatches⟩ := h
    obtain ⟨authority, nextWithdrawalId, paused, hpost⟩ := run_vault_some run hvault
    obtain ⟨h₁, h₂, h₃, h₄, h₅⟩ := hmatches
    exact ⟨_, hpost, h₁, h₂, h₃, h₄, h₅⟩
  | registerAsset params accounts =>
    obtain ⟨asset, hasset, hmatches, hvault, hprogram⟩ := h
    obtain ⟨asset', hpost, hvault', hmint', hprogram'⟩ := run_vaultAsset_some run hasset
    exact ⟨asset', hpost, hmatches.congr hvault' hmint', hvault'.trans hvault,
      hprogram'.trans hprogram⟩
  | deposit params accounts =>
    obtain ⟨asset, hasset, hmatches, hvault⟩ := h
    obtain ⟨asset', hpost, hvault', hmint', -⟩ := run_vaultAsset_some run hasset
    exact ⟨asset', hpost, hmatches.congr hvault' hmint', hvault'.trans hvault⟩
  | requestWithdrawal params accounts =>
    obtain ⟨request, hrequest, hmatches⟩ := h
    obtain ⟨status, hpost⟩ := Run.withdrawalRequest_some run hrequest
    obtain ⟨h₁, h₂, h₃, h₄, h₅, h₆, h₇, h₈, h₉⟩ := hmatches
    exact ⟨_, hpost, h₁, h₂, h₃, h₄, h₅, h₆, h₇, h₈, h₉⟩

end Persistence

section Submission

variable {client : IronVaultClient Pubkey} {connection : Connection Pubkey}
variable {randomBytes : Vector UInt8 8} {now : Int64} {s s' : State Pubkey}

/--
What a confirmed transaction leaves behind for the receipt of its method.
-/
structure Settles (payer : Pubkey) (receipt : Receipt Pubkey) (s s' : State Pubkey) : Prop where
  run : ∃ tr, Run Step s tr s'
  holds : receipt.Holds payer s'
  pays : ∀ source destination amount, receipt.payment = some (source, destination, amount) →
    ∃ n : Nat, Timestamp.Denotes amount n ∧ Transferred s s' source destination n

omit [Borsh Pubkey] [Web3 Pubkey] in
theorem pays_of_step (hs : Reachable s) {instruction : Instruction Pubkey}
    (hstep : Step s (.instruction instruction now) s') {x : Transfer Pubkey}
    (hx : instruction.transfer s = some x) : Transferred s s' x.source x.destination x.amount.toNat := by
  have hledger := hstep.ledger hs
  have hne := (hledger.moved hx).ne
  have hsource := hledger.balance_add x.source
  have hdestination := hledger.balance_add x.destination
  simp only [Instruction.debit, Instruction.credit, hx, if_pos, if_neg hne, if_neg hne.symm]
    at hsource hdestination
  exact ⟨by omega, by omega⟩

theorem createEscrow_settles (hdistinct : TransactionInstruction.DistinctHandlers Pubkey)
    (hs : Reachable s) {params : CreateEscrowParams Pubkey}
    {sent : Sent Pubkey (CreateEscrowAccounts Pubkey)}
    (hsent : client.createEscrow connection randomBytes params = .ok sent)
    (hconfirmed : Confirmed client.programId now s sent.instructions s') :
    Settles client.payer (.createEscrow params sent.accounts) s s' := by
  obtain ⟨mint, recipient, escrowId, amount, expiresAt, hsends, hmint, hrecipient, hamount,
    hexpiresAt, hid, hreturned, halone⟩ := IronVaultClient.createEscrow_sent hdistinct hsent
  obtain ⟨tr, s₁, hrun, hsame, hstep⟩ := hsends.step hconfirmed
  obtain rfl := hsame halone
  refine ⟨⟨_, hrun.snoc hstep⟩, ?_, ?_⟩
  . obtain ⟨event, -, heffect⟩ := hstep.effect
    cases heffect with
    | createEscrow _ h =>
      refine ⟨_, congrFun (congrArg State.escrow h.post_eq) _ |>.trans (Function.update_self ..), ?_⟩
      exact ⟨h.key_eq, h.tokenKey_eq, rfl, hrecipient, hmint, rfl, hamount, hexpiresAt, hreturned,
        hid.denotes⟩
  . intro source destination amount' hpayment
    cases hpayment
    exact ⟨_, hamount, pays_of_step hs hstep rfl⟩

theorem releaseEscrow_settles (hderives : DerivesAddresses client.programId)
    (hdistinct : TransactionInstruction.DistinctHandlers Pubkey) (hs : Reachable s)
    {params : EscrowReference Pubkey} {sent : Sent Pubkey (ReleaseEscrowAccounts Pubkey)}
    (hsent : client.releaseEscrow connection params = .ok sent)
    (hconfirmed : Confirmed client.programId now s sent.instructions s') :
    Settles client.payer (.releaseEscrow params sent.accounts) s s' := by
  obtain ⟨mint, tokenProgram, hsends, hid⟩ := IronVaultClient.releaseEscrow_sent hdistinct hsent
  obtain ⟨tr, s₁, hrun, -, hstep⟩ := hsends.step hconfirmed
  refine ⟨⟨_, hrun.snoc hstep⟩, ?_, by simp [Receipt.payment]⟩
  obtain ⟨event, -, heffect⟩ := hstep.effect
  cases heffect with
  | @releaseEscrow _ _ _ _ escrow h =>
    have hpost := congrFun (congrArg State.escrow h.settled.post_eq) sent.accounts.escrow
    refine ⟨_, hpost.trans (Function.update_self ..), h.maker_eq, rfl, ?_⟩
    intro hgiven
    obtain ⟨escrowId, hdenotes, hkey⟩ := hid hgiven
    have hderived : sent.accounts.escrow = address (.escrow client.payer escrowId) :=
      hkey.trans (hderives (.escrow client.payer escrowId))
    have hcanonical := ((hs.run hrun).escrow h.settled.escrow_eq).canonical.key_eq
    rw [hderived, address_inj, Seeds.escrow.injEq] at hcanonical
    rw [← hcanonical.2]
    exact hdenotes

theorem refundEscrow_settles (hdistinct : TransactionInstruction.DistinctHandlers Pubkey)
    {params : EscrowReference Pubkey} {sent : Sent Pubkey (RefundEscrowAccounts Pubkey)}
    (hsent : client.refundEscrow connection params = .ok sent)
    (hconfirmed : Confirmed client.programId now s sent.instructions s') :
    Settles client.payer (.refundEscrow params sent.accounts) s s' := by
  obtain ⟨mint, tokenProgram, hsends⟩ := IronVaultClient.refundEscrow_sent hdistinct hsent
  obtain ⟨tr, s₁, hrun, -, hstep⟩ := hsends.step hconfirmed
  refine ⟨⟨_, hrun.snoc hstep⟩, ?_, by simp [Receipt.payment]⟩
  obtain ⟨event, -, heffect⟩ := hstep.effect
  cases heffect with
  | refundEscrow h =>
    have hpost := congrFun (congrArg State.escrow h.settled.post_eq) sent.accounts.escrow
    exact ⟨_, hpost.trans (Function.update_self ..), rfl⟩

theorem createVault_settles (hdistinct : TransactionInstruction.DistinctHandlers Pubkey)
    {params : CreateVaultParams Pubkey} {sent : Sent Pubkey (CreateVaultAccounts Pubkey)}
    (hsent : client.createVault randomBytes params = .ok sent)
    (hconfirmed : Confirmed client.programId now s sent.instructions s') :
    Settles client.payer (.createVault params sent.accounts) s s' := by
  obtain ⟨guardian, vaultId, hsends, hguardian, hid, hreturned⟩ :=
    IronVaultClient.createVault_sent hdistinct hsent
  obtain ⟨tr, s₁, hrun, -, hstep⟩ := hsends.step hconfirmed
  refine ⟨⟨_, hrun.snoc hstep⟩, ?_, by simp [Receipt.payment]⟩
  obtain ⟨event, -, heffect⟩ := hstep.effect
  cases heffect with
  | createVault _ h =>
    have hpost := congrFun (congrArg State.vault h.post_eq) sent.accounts.vault
    exact ⟨_, hpost.trans (Function.update_self ..), h.key_eq, rfl, hguardian, hreturned,
      hid.denotes⟩

theorem registerAsset_settles (hdistinct : TransactionInstruction.DistinctHandlers Pubkey)
    {params : VaultMintParams Pubkey} {sent : Sent Pubkey (RegisterAssetAccounts Pubkey)}
    (hsent : client.registerAsset connection params = .ok sent)
    (hconfirmed : Confirmed client.programId now s sent.instructions s') :
    Settles client.payer (.registerAsset params sent.accounts) s s' := by
  obtain ⟨mint, hsends, hvault, hmint⟩ := IronVaultClient.registerAsset_sent hdistinct hsent
  obtain ⟨tr, s₁, hrun, -, hstep⟩ := hsends.step hconfirmed
  refine ⟨⟨_, hrun.snoc hstep⟩, ?_, by simp [Receipt.payment]⟩
  obtain ⟨event, -, heffect⟩ := hstep.effect
  cases heffect with
  | registerAsset h =>
    have hpost := congrFun (congrArg State.vaultAsset h.post_eq) sent.accounts.vaultAsset
    exact ⟨_, hpost.trans (Function.update_self ..), ⟨h.key_eq, h.tokenKey_eq, hvault, hmint⟩, rfl,
      rfl⟩

theorem deposit_settles (hdistinct : TransactionInstruction.DistinctHandlers Pubkey)
    (hs : Reachable s) {params : DepositParams Pubkey} {sent : Sent Pubkey (DepositAccounts Pubkey)}
    (hsent : client.deposit connection params = .ok sent)
    (hconfirmed : Confirmed client.programId now s sent.instructions s') :
    Settles client.payer (.deposit params sent.accounts) s s' := by
  obtain ⟨mint, tokenProgram, amount, hsends, hvault, hmint, hamount, halone⟩ :=
    IronVaultClient.deposit_sent hdistinct hsent
  obtain ⟨tr, s₁, hrun, hsame, hstep⟩ := hsends.step hconfirmed
  obtain rfl := hsame halone
  refine ⟨⟨_, hrun.snoc hstep⟩, ?_, ?_⟩
  . obtain ⟨event, -, heffect⟩ := hstep.effect
    cases heffect with
    | @deposit _ _ _ _ _ asset _ h =>
      have hpost := congrFun (congrArg State.vaultAsset h.post_eq) sent.accounts.vaultAsset
      have hkey := hs.asset_key h.asset_eq h.asset_vault h.asset_mint
      refine ⟨asset, hpost.trans h.asset_eq, ⟨?_, ?_, ?_, ?_⟩, h.asset_vault⟩
      . rw [h.asset_vault, h.asset_mint]
        exact hkey
      . rw [h.asset_vault, h.asset_mint]
        exact h.custody_eq
      . rw [h.asset_vault]
        exact hvault
      . rw [h.asset_mint]
        exact hmint
  . intro source destination amount' hpayment
    cases hpayment
    exact ⟨_, hamount, pays_of_step hs hstep rfl⟩

theorem requestWithdrawal_settles (hderives : DerivesAddresses client.programId)
    (hdistinct : TransactionInstruction.DistinctHandlers Pubkey)
    {params : RequestWithdrawalParams Pubkey}
    {sent : Sent Pubkey (RequestWithdrawalAccounts Pubkey)}
    (hsent : client.requestWithdrawal connection params = .ok sent)
    (hconfirmed : Confirmed client.programId now s sent.instructions s') :
    Settles client.payer (.requestWithdrawal params sent.accounts) s s' := by
  obtain ⟨mint, recipient, tokenProgram, remainingAccounts, amount, withdrawalId, hsends, hvault,
    hmint, hamount, hrecipient, hsupported, hdestined, hkey, hreturned⟩ :=
    IronVaultClient.requestWithdrawal_sent hdistinct hsent
  obtain ⟨tr, s₁, hrun, -, hstep⟩ := hsends.step hconfirmed
  refine ⟨⟨_, hrun.snoc hstep⟩, ?_, by simp [Receipt.payment]⟩
  obtain ⟨event, -, heffect⟩ := hstep.effect
  cases heffect with
  | requestWithdrawal h =>
    have hpost := congrFun (congrArg State.withdrawalRequest h.post_eq)
      sent.accounts.withdrawalRequest
    have hderived : sent.accounts.withdrawalRequest
        = address (.withdrawal sent.accounts.vault withdrawalId) :=
      hkey.trans (hderives (.withdrawal sent.accounts.vault withdrawalId))
    have hnumber := h.key_eq
    dsimp only at hnumber
    rw [hderived, address_inj, Seeds.withdrawal.injEq] at hnumber
    refine ⟨_, hpost.trans (Function.update_self ..), h.key_eq, rfl, hvault, hmint, hamount,
      ⟨recipient, tokenProgram, hrecipient, hsupported, hdestined⟩, rfl, rfl, rfl, ?_⟩
    rw [hreturned, hnumber.2]

end Submission

section Run

variable {programId : Pubkey} {d d' : Deployment Pubkey} {a : DeploymentAction Pubkey}
variable {tr : List (Transition (Deployment Pubkey) (DeploymentAction Pubkey))}

theorem invoke_settles (hderives : DerivesAddresses programId)
    (hdistinct : TransactionInstruction.DistinctHandlers Pubkey) {s s' : State Pubkey}
    (hs : Reachable s) {client : IronVaultClient Pubkey} (hprogram : client.programId = programId)
    {connection : Connection Pubkey} {randomBytes : Vector UInt8 8} {method : Method Pubkey}
    {now : Int64} {sent : Sent Pubkey (Receipt Pubkey)}
    (hsent : client.invoke connection randomBytes method = .ok sent)
    (hconfirmed : Confirmed programId now s sent.instructions s') :
    Settles client.payer sent.accounts s s' := by
  subst hprogram
  cases method
  all_goals
    simp only [IronVaultClient.invoke, Except.bind_eq_ok_iff, Except.pure_eq_ok_iff] at hsent
    obtain ⟨sent, hsent, rfl⟩ := hsent
  case createEscrow params =>
    exact createEscrow_settles hdistinct hs hsent hconfirmed
  case releaseEscrow params =>
    exact releaseEscrow_settles hderives hdistinct hs hsent hconfirmed
  case refundEscrow params =>
    exact refundEscrow_settles hdistinct hsent hconfirmed
  case createVault params =>
    exact createVault_settles hdistinct hsent hconfirmed
  case registerAsset params =>
    exact registerAsset_settles hdistinct hsent hconfirmed
  case deposit params =>
    exact deposit_settles hdistinct hs hsent hconfirmed
  case requestWithdrawal params =>
    exact requestWithdrawal_settles hderives hdistinct hsent hconfirmed

/--
A step is a run of the chain, and a new receipt is settled in it.
-/
theorem DeploymentStep.settles (hderives : DerivesAddresses programId)
    (hdistinct : TransactionInstruction.DistinctHandlers Pubkey) (hs : Reachable d.chain)
    (h : DeploymentStep programId d a d') :
    (∃ tr, Run Step d.chain tr d'.chain) ∧ ∃ fresh, d'.receipts = d.receipts ++ fresh ∧
      ∀ r ∈ fresh, Settles r.1 r.2 d.chain d'.chain := by
  cases h with
  | chain h => exact ⟨⟨_, Run.nil.snoc h⟩, [], by simp, by simp⟩
  | submit hprogram hsent hconfirmed =>
    have hsettles := invoke_settles hderives hdistinct hs hprogram hsent hconfirmed
    refine ⟨hsettles.run, _, rfl, ?_⟩
    intro r hr
    rw [List.mem_singleton] at hr
    rw [hr]
    exact hsettles

theorem deployment_invariant (hderives : DerivesAddresses programId)
    (hdistinct : TransactionInstruction.DistinctHandlers Pubkey)
    (run : Run (DeploymentStep programId) .empty tr d) :
    Reachable d.chain ∧ ∀ r ∈ d.receipts, r.2.Holds r.1 d.chain := by
  apply run.invariant (P := fun d => Reachable d.chain ∧ ∀ r ∈ d.receipts, r.2.Holds r.1 d.chain)
  . exact ⟨⟨[], .nil⟩, by simp [Deployment.empty]⟩
  . rintro d a d' - hstep ⟨hs, hold⟩
    obtain ⟨⟨tr, hrun⟩, fresh, hreceipts, hfresh⟩ := hstep.settles hderives hdistinct hs
    refine ⟨hs.run hrun, ?_⟩
    intro r hr
    rw [hreceipts, List.mem_append] at hr
    cases hr with
    | inl hr => exact (hold r hr).run hrun
    | inr hr => exact (hfresh r hr).holds

theorem run_deployment {s s' : State Pubkey} {tr : List (Transition (State Pubkey) (Action Pubkey))}
    (run : Run Step s tr s') (receipts : List (Pubkey × Receipt Pubkey)) :
    ∃ tr, Run (DeploymentStep programId) ⟨s, receipts⟩ tr ⟨s', receipts⟩ := by
  induction run with
  | nil => exact ⟨[], .nil⟩
  | @snoc tr t u a _ hstep ih =>
    obtain ⟨tr, hrun⟩ := ih
    have hchain : DeploymentStep programId ⟨t, receipts⟩ (.chain a) ⟨u, receipts⟩ := .chain hstep
    exact ⟨_, hrun.snoc hchain⟩

end Run

theorem receipts_hold {programId : Pubkey} (hderives : DerivesAddresses programId)
    (hdistinct : TransactionInstruction.DistinctHandlers Pubkey)
    {tr : List (Transition (Deployment Pubkey) (DeploymentAction Pubkey))} {d : Deployment Pubkey}
    (run : Run (DeploymentStep programId) .empty tr d) :
    (∀ payer receipt, (payer, receipt) ∈ d.receipts → receipt.Holds payer d.chain) ∧
      ∀ t ∈ tr, ∀ payer receipt, t.post.receipts = t.pre.receipts ++ [(payer, receipt)] →
        ∀ (source destination : Pubkey) (amount : Integer),
          receipt.payment = some (source, destination, amount) →
          ∃ n : Nat, Timestamp.Denotes amount n ∧
            Transferred t.pre.chain t.post.chain source destination n := by
  refine ⟨?_, ?_⟩
  . intro payer receipt hmem
    exact (deployment_invariant hderives hdistinct run).2 _ hmem
  . intro t ht payer receipt hreceipts
    obtain ⟨_, hpre, hstep⟩ := run.of_mem ht
    have hs := (deployment_invariant hderives hdistinct hpre).1
    obtain ⟨-, fresh, hfresh, hsettles⟩ := hstep.settles hderives hdistinct hs
    rw [hreceipts, List.append_cancel_left_eq] at hfresh
    have hmem : (payer, receipt) ∈ fresh := by
      rw [← hfresh]
      exact List.mem_singleton_self _
    exact (hsettles _ hmem).pays

def Method.Reaches : Method Pubkey → Instruction Pubkey → Prop
  | .createEscrow _, .createEscrow .. => True
  | .releaseEscrow _, .releaseEscrow _ => True
  | .refundEscrow _, .refundEscrow _ => True
  | .createVault _, .createVault .. => True
  | .registerAsset _, .registerAsset _ => True
  | .deposit _, .deposit .. => True
  | .requestWithdrawal _, .requestWithdrawal .. => True
  | _, _ => False

theorem invocation_confirmed_iff (hdistinct : TransactionInstruction.DistinctHandlers Pubkey)
    {client : IronVaultClient Pubkey} {connection : Connection Pubkey}
    {randomBytes : Vector UInt8 8} {method : Method Pubkey} {sent : Sent Pubkey (Receipt Pubkey)}
    (hsent : client.invoke connection randomBytes method = .ok sent) :
    ∃ instruction, Sends client sent.instructions instruction ∧ method.Reaches instruction ∧
      ∀ now s s', Confirmed client.programId now s sent.instructions s' ↔
        ¬ IsProgramAddress client.payer ∧ ∃ s₁ event,
          Transacts client.programId (transactionKeys sent.instructions) now s
            sent.instructions.dropLast s₁ ∧
          process s₁ now instruction = .ok (s', event) := by
  suffices h : ∃ instruction, Sends client sent.instructions instruction ∧
      method.Reaches instruction by
    obtain ⟨instruction, hsends, hreaches⟩ := h
    exact ⟨instruction, hsends, hreaches, fun _ _ _ => hsends.confirmed_iff⟩
  cases method
  all_goals
    simp only [IronVaultClient.invoke, Except.bind_eq_ok_iff, Except.pure_eq_ok_iff] at hsent
    obtain ⟨sent, hsent, rfl⟩ := hsent
  case createEscrow params =>
    obtain ⟨_, _, _, _, _, hsends, -⟩ := IronVaultClient.createEscrow_sent hdistinct hsent
    exact ⟨_, hsends, trivial⟩
  case releaseEscrow params =>
    obtain ⟨_, _, hsends, -⟩ := IronVaultClient.releaseEscrow_sent hdistinct hsent
    exact ⟨_, hsends, trivial⟩
  case refundEscrow params =>
    obtain ⟨_, _, hsends⟩ := IronVaultClient.refundEscrow_sent hdistinct hsent
    exact ⟨_, hsends, trivial⟩
  case createVault params =>
    obtain ⟨_, _, hsends, -⟩ := IronVaultClient.createVault_sent hdistinct hsent
    exact ⟨_, hsends, trivial⟩
  case registerAsset params =>
    obtain ⟨_, hsends, -⟩ := IronVaultClient.registerAsset_sent hdistinct hsent
    exact ⟨_, hsends, trivial⟩
  case deposit params =>
    obtain ⟨_, _, _, hsends, -⟩ := IronVaultClient.deposit_sent hdistinct hsent
    exact ⟨_, hsends, trivial⟩
  case requestWithdrawal params =>
    obtain ⟨_, _, _, _, _, _, hsends, -⟩ := IronVaultClient.requestWithdrawal_sent hdistinct hsent
    exact ⟨_, hsends, trivial⟩

end IronVault.Client

namespace IronVault.Scenario

open Client

/-- The SHA-256 hashes of the names of all handlers. -/
def handlerDigests : List (String × Nat) := [
  ("global:initialize", 0xafaf6d1f0d989bedd46a95073281adc21bb5e0e1d773b2fbbd7ab504cdd4aa30),
  ("global:initialize_protocol", 0xbce9fc6a8692ca5b23395afbe8978c665ff970ad4493917f2183dfb4e228a0f5),
  ("global:set_protocol_pause", 0x13eb87fab872d159b0ca8cfc9ee70865593e7cf0f93d9e6e91300e3ff76e3aa8),
  ("global:create_escrow", 0xfdd7a574246c4450dfe0bff265a1500fbd99f7e47f2ab3b66c0f8a25a3f9ece0),
  ("global:release_escrow", 0x92fd81e91491b5ce89f9d9c36ea7211a09dc35fb658ff8b8d9249ad225b15c4f),
  ("global:refund_escrow", 0x6bba59631ac217ccedc705c34e06e5fa56a616b67a750cb399eda2565079520d),
  ("global:create_vault", 0x1dedf7d0c15236873b551c830144c9100f7c77601df116c31f691a6f01e3c53a),
  ("global:set_vault_authority", 0x139ce930498f08ce31db5fc1d70f894a60150c75903efdc72adee0a33ba89745),
  ("global:pause_vault", 0xfa06e439066813d2d8ecd2da600df0507cc045175132a2590ce732f6c287b65e),
  ("global:unpause_vault", 0x7d1dd5d5729b7d3f526867ec2a10aea05e132aa961728fbe8ae1a79fc557117a),
  ("global:register_asset", 0x15509b9575cfeb108f342bcf0a6748b76e68cbce4f4481a739060c70317a820d),
  ("global:deposit", 0xf223c68952e1f2b64f7fdf8db46763fed2f53987356e679488d82c0aa642809f),
  ("global:withdraw", 0xb712469c946da1223bcc9925f37578514968cda18f0109adca80cfa712061d4c),
  ("global:grant_role", 0xdaea800f5221ecfdf88923e8ff9b35af7995ad08f7fb20773802fadb6e430268),
  ("global:revoke_role", 0xb3e802b430e35207c6883fb646dde55147ad70f7892eb727bd26dff0f1425298),
  ("global:update_limits", 0x5925893c4b4630c27bdfc46bcb4b5dcbe5f37968655826e3217f236420e28853),
  ("global:request_withdrawal", 0xfb5579cd38c90cb1709a324cc48c9f0934b679b6be2a928438330eec2cc251af),
  ("global:execute_withdrawal", 0x7179cbe8898bf8f9f25d4e4076cfe9769da5ece39e75f870b023314d71e1cfc2),
  ("global:cancel_withdrawal", 0xb768b5fa1c80d246ed3b6ad49c33383bedfd8592bbad97d8e2ae62223b02130c)
]

section

local instance handlerWeb3 : Web3 Key :=
  { (inferInstance : Web3 Key) with
    sha256 := fun text => Client.Scenario.bytes32 ((handlerDigests.lookup text).getD 0)
    ofBase58 := fun text =>
      [("Vau1t", vault), ("Mint", mint), ("Source", authorityToken)].lookup text }

def depositParams : DepositParams Key where
  vault := .publicKey vault
  mint := .publicKey mint
  amount := .bigint 250
  sourceToken := some (.publicKey authorityToken)

def mintConnection : Connection Key where
  getAccountInfo _ := .ok (some ⟨tokenProgram, []⟩)

def depositor : IronVaultClient Key := ⟨authority, .wallet 23⟩

theorem depositor_derives : DerivesAddresses depositor.programId := by
  intro seeds
  have hderives := @Key.derivesAddresses (.wallet 23) (by decide) seeds
  show Key.findProgramAddressSync (seedBuffers seeds) (.wallet 23) = address seeds
  exact hderives

theorem depositor_distinct : TransactionInstruction.DistinctHandlers Key := by
  unfold TransactionInstruction.DistinctHandlers
  decide +kernel

def depositInstruction : TransactionInstruction Key where
  programId := .wallet 23
  keys := [
    ⟨authority, true, false⟩, ⟨vault, false, false⟩, ⟨mint, false, false⟩, ⟨vaultAsset, false, false⟩,
    ⟨authorityToken, false, true⟩, ⟨vaultToken, false, true⟩, ⟨tokenProgram, false, false⟩
  ]
  data := instructionData Key "deposit" [Borsh.serialize (250 : UInt64)]

def depositReceipt : Receipt Key :=
  .deposit depositParams ⟨vault, vaultAsset, vaultToken, authorityToken⟩

theorem invoke_deposit :
    depositor.invoke mintConnection (.replicate 8 0) (.deposit depositParams)
      = .ok ⟨[depositInstruction], depositReceipt⟩ := by
  have hasset : deriveVaultAssetAddress vault mint depositor.programId = vaultAsset :=
    depositor_derives (.vaultAsset vault mint)
  have htoken : deriveVaultTokenAddress vault mint depositor.programId = vaultToken :=
    depositor_derives (.vaultToken vault mint)
  unfold depositInstruction depositReceipt
  rw [← hasset, ← htoken]
  rfl

theorem dispatch?_deposit :
    depositInstruction.dispatch? = some (.deposit ⟨authority, vault, mint, vaultAsset,
      authorityToken, vaultToken, tokenProgram⟩ 250) := by
  have hcarries : depositInstruction.Carries "deposit" (250 : UInt64) :=
    TransactionInstruction.carries_of_data rfl (by simp)
  have hmem : ("deposit", @TransactionInstruction.deposit? Key _)
      ∈ TransactionInstruction.handlers := by
    simp [TransactionInstruction.handlers]
  rw [TransactionInstruction.dispatch?_eq depositor_distinct hmem hcarries]
  exact TransactionInstruction.deposit?_eq hcarries rfl

theorem confirmed_deposit :
    ∃ s, Confirmed depositor.programId 4 (start.final setup) [depositInstruction] s := by
  obtain ⟨hstep, -⟩ := @State.step_apply (start.final setup) (.deposit ⟨authority, vault, mint,
    vaultAsset, authorityToken, vaultToken, tokenProgram⟩ 250) 4 [] (by decide +kernel)
  cases hstep with
  | instruction hsigner hok =>
    have hgranted : Grants depositInstruction.keys (.deposit ⟨authority, vault, mint, vaultAsset,
        authorityToken, vaultToken, tokenProgram⟩ 250) := by
      constructor <;> decide
    refine ⟨_, ?_, .program rfl dispatch?_deposit hgranted hok .nil⟩
    intro key hkey hkeySigner
    have hauthority : key.pubkey = authority := by
      revert key
      decide
    rw [hauthority]
    exact Key.not_isProgramAddress_wallet 5

theorem invocation_confirmed_iff_deposit :
    ∃ instruction, Sends depositor [depositInstruction] instruction ∧
      ∃ s₁ s event, Transacts depositor.programId (transactionKeys [depositInstruction]) 4
          (start.final setup) [] s₁ ∧
        process s₁ 4 instruction = .ok (s, event) := by
  obtain ⟨s, hconfirmed⟩ := confirmed_deposit
  obtain ⟨instruction, hsends, -, hiff⟩ := invocation_confirmed_iff depositor_distinct invoke_deposit
  obtain ⟨-, s₁, event, hsetup, hok⟩ := (hiff 4 (start.final setup) s).mp hconfirmed
  exact ⟨instruction, hsends, s₁, s, event, hsetup, hok⟩

theorem receipts_hold_deposited :
    ∃ tr d, Run (DeploymentStep depositor.programId) (.empty : Deployment Key) tr d ∧
      d.receipts = [(authority, depositReceipt)] ∧ depositReceipt.Holds authority d.chain ∧
      ∃ n : Nat, Timestamp.Denotes (Integer.bigint 250) n ∧
        Transferred (start.final setup) d.chain authorityToken vaultToken n := by
  obtain ⟨s, hconfirmed⟩ := confirmed_deposit
  obtain ⟨tr, hchain⟩ := @run_deployment Key _ _ _ _ depositor.programId _ _ _
    (history_trace setup (by decide +kernel)) []
  have hsubmit : DeploymentStep depositor.programId ⟨start.final setup, []⟩
      (.submit (.deposit depositParams) 4) ⟨s, [(authority, depositReceipt)]⟩ :=
    .submit rfl invoke_deposit hconfirmed
  obtain ⟨hholds, hpays⟩ := receipts_hold depositor_derives depositor_distinct (hchain.snoc hsubmit)
  refine ⟨_, _, hchain.snoc hsubmit, rfl, hholds _ _ (List.mem_singleton_self _), ?_⟩
  exact hpays _ (List.mem_append_right _ (List.mem_singleton_self _)) _ _ rfl _ _ _ rfl

end

end IronVault.Scenario
