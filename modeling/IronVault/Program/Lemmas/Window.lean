import IronVault.Program.Lemmas.WellFormed

/-!
This module contains what a step does to the policy and the accounting window of an asset.
-/

namespace IronVault

variable {Pubkey : Type} [DecidableEq Pubkey] [Solana Pubkey]

def Instruction.charge (s : State Pubkey) : Instruction Pubkey → Option (Pubkey × UInt64)
  | .withdraw ctx amount => some (ctx.vaultAsset, amount)
  | .executeWithdrawal ctx =>
    (s.withdrawalRequest ctx.withdrawalRequest).map fun request => (ctx.vaultAsset, request.amount)
  | _ => none

structure Idle (s : State Pubkey) (key : Pubkey) (a : Action Pubkey) : Prop where
  no_update {ctx : UpdateLimits Pubkey} {policy : Policy} {now : Int64} :
    a = .instruction (.updateLimits ctx policy) now → ctx.vaultAsset ≠ key
  no_charge {ix : Instruction Pubkey} {now : Int64} {amount : UInt64} :
    a = .instruction ix now → ix.charge s ≠ some (key, amount)

inductive VaultAsset.Evolves (s : State Pubkey) (key : Pubkey) (asset : VaultAsset Pubkey) :
    Action Pubkey → State Pubkey → Prop where
  | idle {a : Action Pubkey} {s' : State Pubkey} (hidle : Idle s key a)
      (hpost : s'.vaultAsset key = some asset) : Evolves s key asset a s'
  | updated {ctx : UpdateLimits Pubkey} {policy : Policy} {now : Int64} {s' : State Pubkey}
      {event : IronVaultEvent Pubkey} {vault : Vault Pubkey} {window : Int64 × UInt64}
      (hkey : ctx.vaultAsset = key) (h : ctx.Accepted s policy now s' event vault asset window)
      (hpost : s'.vaultAsset key = some (asset.withPolicy policy window)) :
      Evolves s key asset (.instruction (.updateLimits ctx policy) now) s'
  | charged {ix : Instruction Pubkey} {now : Int64} {s' : State Pubkey} {amount : UInt64}
      {next : Int64 × UInt64} (hcharge : ix.charge s = some (key, amount))
      (hwindow : nextWindowState asset amount now = .ok next)
      (hpost : s'.vaultAsset key
        = some { asset with windowStartedAt := next.1, windowSpent := next.2 }) :
      Evolves s key asset (.instruction ix now) s'

structure VaultAsset.Unconfigured (asset : VaultAsset Pubkey) : Prop where
  windowSeconds : asset.windowSeconds = 0
  maxPerTransaction : asset.maxPerTransaction = u64Max
  windowLimit : asset.windowLimit = u64Max
  timelockThreshold : asset.timelockThreshold = u64Max
  windowSpent : asset.windowSpent = 0
  timelockSeconds : asset.timelockSeconds = 0
  requestExecutionWindowSeconds : asset.requestExecutionWindowSeconds = 0

section

variable {s s' : State Pubkey} {a : Action Pubkey} {key : Pubkey} {asset : VaultAsset Pubkey}

omit [DecidableEq Pubkey] [Solana Pubkey] in
theorem Idle.of_charge {ix : Instruction Pubkey} {now : Int64}
    (hupdate : ∀ ctx policy, ix = .updateLimits ctx policy → ctx.vaultAsset ≠ key)
    (hcharge : ∀ amount, ix.charge s ≠ some (key, amount)) : Idle s key (.instruction ix now) where
  no_update := by
    intro ctx policy now' heq
    cases heq
    exact hupdate ctx policy rfl
  no_charge := by
    intro ix' now' amount heq
    cases heq
    exact hcharge amount

theorem Outflow.evolves {ix : Instruction Pubkey} {now : Int64} {amount : UInt64}
    {config vaultKey mint assetKey custody destination : Pubkey} {vault : Vault Pubkey}
    {old : VaultAsset Pubkey} {next : Int64 × UInt64} (hasset : s.vaultAsset key = some asset)
    (hcharge : ix.charge s = some (assetKey, amount))
    (hupdate : ∀ ctx policy, ix = .updateLimits ctx policy → ctx.vaultAsset ≠ key)
    (h : Outflow s config vaultKey mint assetKey custody destination amount now s' vault old next) :
    asset.Evolves s key (.instruction ix now) s' := by
  rcases Function.update_cases hasset h.asset_eq h.asset_post with
    ⟨rfl, rfl, hpost⟩ | ⟨hkey, hpost⟩
  . exact .charged hcharge h.window_ok hpost
  . apply VaultAsset.Evolves.idle _ hpost
    apply Idle.of_charge hupdate
    intro amount' heq
    rw [hcharge, Option.some.injEq, Prod.mk.injEq] at heq
    exact hkey heq.1

theorem Step.asset_evolves (hstep : Step s a s') (hasset : s.vaultAsset key = some asset) :
    asset.Evolves s key a s' := by
  obtain ⟨event, -, heffect⟩ := hstep.effect
  cases heffect with
  | thirdParty h => exact .idle ⟨by simp, by simp⟩ hasset
  | dispatch => exact .idle (.of_charge (by simp) (by simp [Instruction.charge])) hasset
  | registerAsset h =>
    apply VaultAsset.Evolves.idle (.of_charge (by simp) (by simp [Instruction.charge]))
    apply Function.update_of_vacant hasset (State.vacant_of_unallocated h.fresh).vaultAsset
    exact congrArg State.vaultAsset h.post_eq
  | updateLimits h =>
    rcases Function.update_cases hasset h.asset_eq (congrArg State.vaultAsset h.post_eq) with
      ⟨hkey, rfl, hpost⟩ | ⟨hkey, hpost⟩
    . exact .updated hkey h hpost
    . apply VaultAsset.Evolves.idle _ hpost
      apply Idle.of_charge
      . intro ctx' policy' heq
        cases heq
        exact hkey
      . simp [Instruction.charge]
  | withdraw h => exact h.outflow.evolves hasset rfl (by simp)
  | executeWithdrawal h =>
    apply h.outflow.evolves hasset
    . simp [Instruction.charge, h.request_eq]
    . simp
  | createEscrow _ h =>
    exact .idle (.of_charge (by simp) (by simp [Instruction.charge])) (by rw [h.post_eq, hasset])
  | createVault _ h =>
    exact .idle (.of_charge (by simp) (by simp [Instruction.charge])) (by rw [h.post_eq, hasset])
  | deposit _ h =>
    exact .idle (.of_charge (by simp) (by simp [Instruction.charge])) (by rw [h.post_eq, hasset])
  | releaseEscrow h =>
    exact .idle (.of_charge (by simp) (by simp [Instruction.charge]))
      (by rw [h.settled.post_eq, hasset])
  | refundEscrow h =>
    exact .idle (.of_charge (by simp) (by simp [Instruction.charge]))
      (by rw [h.settled.post_eq, hasset])
  | _ h =>
    exact .idle (.of_charge (by simp) (by simp [Instruction.charge])) (by rw [h.post_eq, hasset])

theorem Step.unconfigured_of_none (hstep : Step s a s') (hnone : s.vaultAsset key = none)
    (hasset : s'.vaultAsset key = some asset) : asset.Unconfigured := by
  cases hstep.assetChange with
  | same h => simp [h, hnone] at hasset
  | register h =>
    obtain ⟨-, rfl⟩ := Function.written_of_none hnone hasset (congrArg State.vaultAsset h.post_eq)
    exact ⟨rfl, rfl, rfl, rfl, rfl, rfl, rfl⟩
  | updateLimits h =>
    simp [Function.update_eq_none hnone h.asset_eq (congrArg State.vaultAsset h.post_eq)] at hasset
  | withdraw h =>
    simp [Function.update_eq_none hnone h.outflow.asset_eq h.outflow.asset_post] at hasset
  | execute h =>
    simp [Function.update_eq_none hnone h.outflow.asset_eq h.outflow.asset_post] at hasset

end

end IronVault
