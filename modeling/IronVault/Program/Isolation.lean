import IronVault.Program.Lemmas.Authority
import IronVault.Program.Lemmas.Custody
import IronVault.Program.Symbolic

/-!
This module contains that vaults and assets do not interfere. The record of an asset is what its own
steps make of it, and an instruction on another vault leaves the accounts of a vault alone, whatever
accounts it brings.
-/

namespace IronVault

variable {Pubkey : Type} [DecidableEq Pubkey] [Solana Pubkey]

open Solana

def Instruction.asset : Instruction Pubkey → Option (Pubkey × Pubkey)
  | .registerAsset ctx => some (ctx.vault, ctx.mint)
  | .deposit ctx _ => some (ctx.vault, ctx.mint)
  | .withdraw ctx _ => some (ctx.vault, ctx.mint)
  | .updateLimits ctx _ => some (ctx.vault, ctx.mint)
  | .requestWithdrawal ctx _ => some (ctx.vault, ctx.mint)
  | .executeWithdrawal ctx => some (ctx.vault, ctx.mint)
  | _ => none

inductive AssetStep (Pubkey : Type) where
  | register (tokenProgram : Pubkey)
  | update (policy : Policy)
  | spend (amount : UInt64)

def Instruction.assetStep (s : State Pubkey) : Instruction Pubkey → Option (AssetStep Pubkey)
  | .registerAsset ctx => some (.register ctx.tokenProgram)
  | .updateLimits _ policy => some (.update policy)
  | .withdraw _ amount => some (.spend amount)
  | .executeWithdrawal ctx =>
    (s.withdrawalRequest ctx.withdrawalRequest).map fun request => .spend request.amount
  | _ => none

/--
The step that a transition takes on the asset of `v` and `m`, and when.
-/
def assetStep (v m : Pubkey) (t : Transition (State Pubkey) (Action Pubkey)) :
    Option (AssetStep Pubkey × Int64) :=
  match t.action with
  | .instruction ix now =>
    if ix.asset = some (v, m) then (ix.assetStep t.pre).map fun step => (step, now) else none
  | .thirdParty => none

def AssetStep.apply (v m : Pubkey) (record : Option (VaultAsset Pubkey)) :
    AssetStep Pubkey × Int64 → Option (VaultAsset Pubkey)
  | (.register tokenProgram, now) => some {
      vault := v
      mint := m
      tokenProgram
      maxPerTransaction := u64Max
      windowLimit := u64Max
      windowSeconds := 0
      windowStartedAt := now
      windowSpent := 0
      timelockThreshold := u64Max
      timelockSeconds := 0
      requestExecutionWindowSeconds := 0
      enabled := true
      bump := (findProgramAddress (.vaultAsset v m)).2
      reserved := .replicate 30 0 }
  | (.update policy, now) => record.bind fun asset =>
    (UpdateLimits.nextWindow asset policy.windowSeconds now).toOption.map (asset.withPolicy policy)
  | (.spend amount, now) => record.bind fun asset =>
    (nextWindowState asset amount now).toOption.map fun next =>
      { asset with windowStartedAt := next.1, windowSpent := next.2 }

structure SameAccounts (v : Pubkey) (s s' : State Pubkey) : Prop where
  vault : s'.vault v = s.vault v
  assets {key : Pubkey} {asset : VaultAsset Pubkey} : asset.vault = v →
    (s'.vaultAsset key = some asset ↔ s.vaultAsset key = some asset)
  roles {key : Pubkey} {role : RoleAssignment Pubkey} : role.vault = v →
    (s'.roleAssignment key = some role ↔ s.roleAssignment key = some role)
  requests {key : Pubkey} {request : WithdrawalRequest Pubkey} : request.vault = v →
    (s'.withdrawalRequest key = some request ↔ s.withdrawalRequest key = some request)

def Action.Elsewhere (v : Pubkey) (a : Action Pubkey) : Prop :=
  ∀ ix now, a = .instruction ix now → ix.vault ≠ some v

structure Isolated (tr : List (Transition (State Pubkey) (Action Pubkey))) (s : State Pubkey)
    (v m : Pubkey) : Prop where
  record : s.vaultAsset (address (.vaultAsset v m))
    = (tr.filterMap (assetStep v m)).foldl (AssetStep.apply v m) none
  accounts {t : Transition (State Pubkey) (Action Pubkey)} :
    t ∈ tr → t.action.Elsewhere v → SameAccounts v t.pre t.post
  custody {t : Transition (State Pubkey) (Action Pubkey)} {ix : Instruction Pubkey} {now : Int64} :
    t ∈ tr → t.action = .instruction ix now → ix.asset ≠ some (v, m) →
      t.pre.balance (address (.vaultToken v m)) ≤ t.post.balance (address (.vaultToken v m))

section Frame

variable {s s' : State Pubkey} {a : Action Pubkey} {v : Pubkey}

omit [DecidableEq Pubkey] [Solana Pubkey] in
theorem Action.Elsewhere.ne {ix : Instruction Pubkey} {now : Int64} {k : Pubkey}
    (h : (Action.instruction ix now).Elsewhere v) (hix : ix.vault = some k) : k ≠ v := by
  rintro rfl
  exact h ix now rfl hix

theorem Step.vault_elsewhere (hstep : Step s a s') (ha : a.Elsewhere v) :
    s'.vault v = s.vault v := by
  cases hstep.vaultChange with
  | same h => rw [h]
  | create h =>
    rw [h.post_eq]
    exact Function.update_of_ne (ha.ne rfl).symm ..
  | setAuthority h =>
    rw [h.post_eq]
    exact Function.update_of_ne (ha.ne rfl).symm ..
  | pause h =>
    rw [h.post_eq]
    exact Function.update_of_ne (ha.ne rfl).symm ..
  | unpause h =>
    rw [h.post_eq]
    exact Function.update_of_ne (ha.ne rfl).symm ..
  | request h =>
    rw [h.post_eq]
    exact Function.update_of_ne (ha.ne rfl).symm ..

theorem Step.assets_elsewhere (hstep : Step s a s') (ha : a.Elsewhere v) {key : Pubkey}
    {asset : VaultAsset Pubkey} (hasset : asset.vault = v) :
    s'.vaultAsset key = some asset ↔ s.vaultAsset key = some asset := by
  have hupdate {k w : Pubkey} {old new : VaultAsset Pubkey} (hw : w ≠ v)
      (hold : s.vaultAsset k = some old) (hvault : old.vault = w)
      (hpost : s'.vaultAsset = Function.update s.vaultAsset k (some new)) (hnew : new.vault = w) :
      s'.vaultAsset key = some asset ↔ s.vaultAsset key = some asset := by
    rw [hpost]
    apply Function.update_eq_some_iff_of_ne VaultAsset.vault _ _ hasset
    . rwa [hnew]
    . intro z hz
      rw [hold, Option.some.injEq] at hz
      rwa [← hz, hvault]
  cases hstep.assetChange with
  | same h => rw [h]
  | register h =>
    rw [h.post_eq]
    apply Function.update_eq_some_iff_of_ne VaultAsset.vault _ _ hasset
    . exact ha.ne rfl
    . simp [(State.vacant_of_unallocated h.fresh).vaultAsset]
  | updateLimits h =>
    exact hupdate (ha.ne rfl) h.asset_eq h.asset_vault (congrArg State.vaultAsset h.post_eq)
      h.asset_vault
  | withdraw h =>
    exact hupdate (ha.ne rfl) h.outflow.asset_eq h.outflow.asset_vault h.outflow.asset_post
      h.outflow.asset_vault
  | execute h =>
    exact hupdate (ha.ne rfl) h.outflow.asset_eq h.outflow.asset_vault h.outflow.asset_post
      h.outflow.asset_vault

theorem Step.roles_elsewhere (hs : Reachable s) (hstep : Step s a s') (ha : a.Elsewhere v)
    {key : Pubkey} {role : RoleAssignment Pubkey} (hrole : role.vault = v) :
    s'.roleAssignment key = some role ↔ s.roleAssignment key = some role := by
  have hunsigned : ¬ AuthoritySigns role.vault ⟨s, a, s'⟩ := by
    rintro ⟨ix, now, -, rfl, hvault, -⟩
    exact ha.ne hvault hrole
  constructor
  . intro h
    exact hstep.role_origin h hunsigned
  . intro h
    exact hstep.role_kept hs h hunsigned

theorem Step.requests_elsewhere (hstep : Step s a s') (ha : a.Elsewhere v) {key : Pubkey}
    {request : WithdrawalRequest Pubkey} (hrequest : request.vault = v) :
    s'.withdrawalRequest key = some request ↔ s.withdrawalRequest key = some request := by
  have hupdate {k w : Pubkey} {old new : WithdrawalRequest Pubkey} (hw : w ≠ v)
      (hold : s.withdrawalRequest k = some old) (hvault : old.vault = w)
      (hpost : s'.withdrawalRequest = Function.update s.withdrawalRequest k (some new))
      (hnew : new.vault = w) :
      s'.withdrawalRequest key = some request ↔ s.withdrawalRequest key = some request := by
    rw [hpost]
    apply Function.update_eq_some_iff_of_ne WithdrawalRequest.vault _ _ hrequest
    . rwa [hnew]
    . intro z hz
      rw [hold, Option.some.injEq] at hz
      rwa [← hz, hvault]
  cases hstep.requestChange with
  | same h => rw [h]
  | request h =>
    rw [h.post_eq]
    apply Function.update_eq_some_iff_of_ne WithdrawalRequest.vault _ _ hrequest
    . exact ha.ne rfl
    . simp [(State.vacant_of_unallocated h.fresh).withdrawalRequest]
  | execute h =>
    exact hupdate (ha.ne rfl) h.request_eq h.request_vault
      (congrArg State.withdrawalRequest h.post_eq) h.request_vault
  | cancel h =>
    exact hupdate (ha.ne rfl) h.request_eq h.request_vault
      (congrArg State.withdrawalRequest h.post_eq) h.request_vault

theorem Step.sameAccounts (hs : Reachable s) (hstep : Step s a s') (ha : a.Elsewhere v) :
    SameAccounts v s s' where
  vault := hstep.vault_elsewhere ha
  assets := hstep.assets_elsewhere ha
  roles := hstep.roles_elsewhere hs ha
  requests := hstep.requests_elsewhere ha

end Frame

section Record

variable {s s' : State Pubkey} {a : Action Pubkey} {ix : Instruction Pubkey} {now : Int64}
  {v m : Pubkey}

omit [Solana Pubkey] in
theorem assetStep_of_none (h : ix.assetStep s = none) :
    assetStep v m ⟨s, .instruction ix now, s'⟩ = none := by
  simp [assetStep, h]

omit [Solana Pubkey] in
theorem assetStep_of_some {step : AssetStep Pubkey} (h : ix.assetStep s = some step) :
    assetStep v m ⟨s, .instruction ix now, s'⟩
      = if ix.asset = some (v, m) then some (step, now) else none := by
  simp [assetStep, h]

theorem record_of_update {k w n : Pubkey} {step : AssetStep Pubkey} {new : VaultAsset Pubkey}
    (hstep : ix.assetStep s = some step) (hix : ix.asset = some (w, n))
    (hkey : k = address (.vaultAsset w n))
    (hpost : s'.vaultAsset = Function.update s.vaultAsset k (some new))
    (hnew : AssetStep.apply w n (s.vaultAsset k) (step, now) = some new) :
    s'.vaultAsset (address (.vaultAsset v m))
      = (assetStep v m ⟨s, .instruction ix now, s'⟩).toList.foldl (AssetStep.apply v m)
        (s.vaultAsset (address (.vaultAsset v m))) := by
  rw [assetStep_of_some hstep, hix, hpost]
  by_cases hasset : (w, n) = (v, m)
  . obtain ⟨rfl, rfl⟩ := Prod.mk.injEq .. ▸ hasset
    rw [if_pos rfl, ← hkey, Function.update_self]
    exact hnew.symm
  . rw [if_neg (by simpa using hasset), Function.update_of_ne]
    . rfl
    . rw [hkey]
      intro heq
      rw [address_inj, Seeds.vaultAsset.injEq] at heq
      exact hasset (by rw [heq.1, heq.2])

theorem Outflow.record {config assetKey custody destination w n : Pubkey} {amount : UInt64}
    {vault : Vault Pubkey} {asset : VaultAsset Pubkey} {next : Int64 × UInt64} (hs : Reachable s)
    (h : Outflow s config w n assetKey custody destination amount now s' vault asset next)
    (hstep : ix.assetStep s = some (.spend amount)) (hix : ix.asset = some (w, n)) :
    s'.vaultAsset (address (.vaultAsset v m))
      = (assetStep v m ⟨s, .instruction ix now, s'⟩).toList.foldl (AssetStep.apply v m)
        (s.vaultAsset (address (.vaultAsset v m))) := by
  apply record_of_update hstep hix (hs.asset_key h.asset_eq h.asset_vault h.asset_mint) h.asset_post
  simp [AssetStep.apply, h.asset_eq, h.window_ok, Except.toOption]

theorem Step.record (hs : Reachable s) (hstep : Step s a s') (v m : Pubkey) :
    s'.vaultAsset (address (.vaultAsset v m))
      = (assetStep v m ⟨s, a, s'⟩).toList.foldl (AssetStep.apply v m)
        (s.vaultAsset (address (.vaultAsset v m))) := by
  obtain ⟨event, -, heffect⟩ := hstep.effect
  cases heffect with
  | thirdParty => rfl
  | dispatch => rfl
  | registerAsset h =>
    apply record_of_update rfl rfl h.key_eq (congrArg State.vaultAsset h.post_eq)
    rfl
  | updateLimits h =>
    apply record_of_update rfl rfl (hs.asset_key h.asset_eq h.asset_vault h.asset_mint)
      (congrArg State.vaultAsset h.post_eq)
    simp [AssetStep.apply, h.asset_eq, h.window_ok, Except.toOption]
  | withdraw h => exact h.outflow.record hs rfl rfl
  | executeWithdrawal h =>
    apply h.outflow.record hs _ rfl
    simp [Instruction.assetStep, h.request_eq]
  | createEscrow _ h => rw [assetStep_of_none rfl, h.post_eq]; rfl
  | createVault _ h => rw [assetStep_of_none rfl, h.post_eq]; rfl
  | deposit _ h => rw [assetStep_of_none rfl, h.post_eq]; rfl
  | releaseEscrow h => rw [assetStep_of_none rfl, h.settled.post_eq]; rfl
  | refundEscrow h => rw [assetStep_of_none rfl, h.settled.post_eq]; rfl
  | _ h => rw [assetStep_of_none rfl, h.post_eq]; rfl

theorem History.record {tr : List (Transition (State Pubkey) (Action Pubkey))} (h : History tr s)
    (v m : Pubkey) :
    s.vaultAsset (address (.vaultAsset v m))
      = (tr.filterMap (assetStep v m)).foldl (AssetStep.apply v m) none := by
  apply Run.foldl_filterMap h
  intro before t a u hrun hstep
  exact hstep.record ⟨before, hrun⟩ v m

end Record

theorem vaults_isolated {tr : List (Transition (State Pubkey) (Action Pubkey))} {s : State Pubkey}
    (h : History tr s) (v m : Pubkey) : Isolated tr s v m := by
  refine ⟨h.record v m, ?_, ?_⟩
  . intro t ht helsewhere
    obtain ⟨before, hbefore, hstep⟩ := Run.of_mem h ht
    exact hstep.sameAccounts ⟨before, hbefore⟩ helsewhere
  . intro t ix now ht haction hasset
    obtain ⟨before, hbefore, hstep⟩ := Run.of_mem h ht
    have hs : Reachable t.pre := ⟨before, hbefore⟩
    by_contra hlt
    rw [Nat.not_le] at hlt
    obtain ⟨ix', now', x, haction', -, hsource, -, hout⟩ :=
      (hs.guarded_vaultToken v m).outflow_of_lt hs hstep hlt
    rw [haction, Action.instruction.injEq] at haction'
    rw [haction'.1] at hasset
    cases hout with
    | release h => simp [h.settled.custody_eq] at hsource
    | refund h => simp [h.settled.custody_eq] at hsource
    | withdraw h =>
      simp only [h.outflow.custody_eq, address_inj, Seeds.vaultToken.injEq] at hsource
      exact hasset (by rw [← hsource.1, ← hsource.2]; rfl)
    | execute h =>
      simp only [h.outflow.custody_eq, address_inj, Seeds.vaultToken.injEq] at hsource
      exact hasset (by rw [← hsource.1, ← hsource.2]; rfl)

open Scenario in
theorem vaults_isolated_requested :
    Isolated (trace requested) (start.final requested) vault mint :=
  vaults_isolated history_requested vault mint

end IronVault
