import IronVault.Util.Counter
import IronVault.Program.Policy
import IronVault.Program.Replay
import IronVault.Program.Window

/-!
This module contains what the log says about the counter of a window. An outflow event carries the
amount but neither the clock nor the counter that it leaves, so the log does not tell whether an
outflow went into the old window or into a new one.
-/

namespace IronVault

variable {Pubkey : Type} [DecidableEq Pubkey] [Solana Pubkey]

def VaultAsset.discards (asset : VaultAsset Pubkey) (now : Int64) : Bool :=
  asset.windowSeconds ≠ 0 && asset.windowSpent ≠ 0 &&
    asset.windowStartedAt.toInt + asset.windowSeconds.toInt ≤ now.toInt

/--
The transition resets the counter of the asset at `key`: it is an `update_limits`, whose event
carries the counter, or an outflow that discards it.
-/
def resetsSpend (key : Pubkey) (t : Transition (State Pubkey) (Action Pubkey)) : Bool :=
  match t.action with
  | .instruction (.updateLimits ctx _) _ => ctx.vaultAsset = key
  | .instruction ix now =>
    (ix.charge t.pre).any (·.1 = key) && (t.pre.vaultAsset key).any (·.discards now)
  | .thirdParty => false

def resetAge (key : Pubkey) (tr : List (Transition (State Pubkey) (Action Pubkey))) : Nat :=
  tr.foldl (fun age t =>
    if resetsSpend key t then 0 else age + (emitted t.pre t.action).toList.length) 0

def SameSpend (key : Pubkey) (s₁ s₂ : State Pubkey) : Prop :=
  (s₁.vaultAsset key).map (·.windowSpent) = (s₂.vaultAsset key).map (·.windowSpent)

section

variable {s s' : State Pubkey} {a : Action Pubkey} {key : Pubkey}
  {tr : List (Transition (State Pubkey) (Action Pubkey))}

def spendEntry (key : Pubkey) : IronVaultEvent Pubkey → Counter.Entry
  | .vaultLimitsUpdated e => if e.vaultAsset = key then .set e.windowSpent.toNat else .other
  | .vaultWithdrawal e => if e.vaultAsset = key then .add e.amount.toNat else .other
  | .withdrawalExecuted e => if e.vaultAsset = key then .add e.amount.toNat else .other
  | _ => .other

def State.spendCounter (s : State Pubkey) (key : Pubkey) : Option Nat :=
  (s.vaultAsset key).bind fun asset =>
    if asset.windowSeconds = 0 then none else some asset.windowSpent.toNat

omit [DecidableEq Pubkey] [Solana Pubkey] in
theorem State.spendCounter_congr (h : s'.vaultAsset key = s.vaultAsset key) :
    s'.spendCounter key = s.spendCounter key := by
  rw [spendCounter, h, spendCounter]

section Step

variable {log : List Counter.Entry} {age : Nat}

theorem UpdateLimits.Accepted.reads {ctx : UpdateLimits Pubkey} {policy : Policy} {now : Int64}
    {event : IronVaultEvent Pubkey} {vault : Vault Pubkey} {asset : VaultAsset Pubkey}
    {window : Int64 × UInt64} (h : ctx.Accepted s policy now s' event vault asset window)
    (hreads : Counter.Reads log (s.spendCounter key) age) :
    Counter.Reads (spendEntry key event :: log) (s'.spendCounter key)
      (if ctx.vaultAsset = key then 0 else age + 1) := by
  rw [h.event_eq]
  simp only [spendEntry]
  by_cases hkey : ctx.vaultAsset = key
  . subst hkey
    have hseconds : policy.windowSeconds ≠ 0 := by
      intro hzero
      have hpos := h.valid.2.2.1
      simp [hzero] at hpos
    have hcounter : s'.spendCounter ctx.vaultAsset = some window.2.toNat := by
      simp [State.spendCounter, h.post_eq, VaultAsset.withPolicy, hseconds]
    rw [if_pos rfl, if_pos rfl, hcounter]
    exact .set _ hreads
  . rw [if_neg hkey, if_neg hkey, State.spendCounter_congr]
    . exact .other hreads
    . rw [h.post_eq]
      exact Function.update_of_ne (Ne.symm hkey) ..

theorem Outflow.reads {config vaultKey mint custody destination : Pubkey}
    {amount : UInt64} {now : Int64} {vault : Vault Pubkey} {asset : VaultAsset Pubkey}
    {next : Int64 × UInt64} (hpos : 0 < amount)
    (h : Outflow s config vaultKey mint key custody destination amount now s' vault asset next)
    (hreads : Counter.Reads log (s.spendCounter key) age) :
    Counter.Reads (.add amount.toNat :: log) (s'.spendCounter key)
      (if asset.discards now then 0 else age + 1) := by
  have hamount : 0 < amount.toNat := UInt64.lt_iff_toNat_lt.mp hpos
  have hpost := h.asset_some
  rcases nextWindowState_ok h.window_ok with
    ⟨hzero, -⟩ | ⟨hseconds, -, ⟨hover, rfl⟩ | ⟨hlive, -, hspent⟩⟩
  . have hcounter : s.spendCounter key = none := by simp [State.spendCounter, h.asset_eq, hzero]
    have hcounter' : s'.spendCounter key = none := by simp [State.spendCounter, hpost, hzero]
    rw [hcounter] at hreads
    rw [hcounter', if_neg (by simp [VaultAsset.discards, hzero])]
    exact .add hamount hreads
  . have hne : asset.windowSeconds ≠ 0 := by
      intro hzero
      simp [hzero] at hseconds
    have hcounter : s.spendCounter key = some asset.windowSpent.toNat := by
      simp [State.spendCounter, h.asset_eq, hne]
    have hcounter' : s'.spendCounter key = some amount.toNat := by
      simp [State.spendCounter, hpost, hne]
    rw [hcounter] at hreads
    rw [hcounter']
    by_cases hspent : asset.windowSpent = 0
    . -- A new window that begins where the old one was empty is no reset
      rw [if_neg (by simp [VaultAsset.discards, hspent])]
      rw [hspent] at hreads
      simpa using hreads.add hamount
    . rw [if_pos (by simp [VaultAsset.discards, hne, hspent, hover])]
      refine .discard hamount ?_ hreads
      intro hzero
      exact hspent (UInt64.toNat_inj.mp hzero)
  . have hne : asset.windowSeconds ≠ 0 := by
      intro hzero
      simp [hzero] at hseconds
    have hcounter : s.spendCounter key = some asset.windowSpent.toNat := by
      simp [State.spendCounter, h.asset_eq, hne]
    have hcounter' : s'.spendCounter key = some (asset.windowSpent.toNat + amount.toNat) := by
      simp [State.spendCounter, hpost, hne, hspent]
    rw [hcounter] at hreads
    rw [hcounter', if_neg (by simp [VaultAsset.discards, Int.not_le.mpr hlive])]
    exact .add hamount hreads

theorem Outflow.reads_event {config vaultKey mint assetKey custody destination : Pubkey}
    {amount : UInt64} {now : Int64} {vault : Vault Pubkey} {asset : VaultAsset Pubkey}
    {next : Int64 × UInt64} {ix : Instruction Pubkey} (hpos : 0 < amount)
    (h : Outflow s config vaultKey mint assetKey custody destination amount now s' vault asset next)
    (hcharge : ix.charge s = some (assetKey, amount))
    (hreads : Counter.Reads log (s.spendCounter key) age) :
    Counter.Reads ((if assetKey = key then .add amount.toNat else .other) :: log)
      (s'.spendCounter key)
      (if (ix.charge s).any (·.1 = key) && (s.vaultAsset key).any (·.discards now) then 0
        else age + 1) := by
  rw [hcharge]
  by_cases hkey : assetKey = key
  . subst hkey
    simpa [h.asset_eq] using h.reads hpos hreads
  . rw [if_neg hkey, State.spendCounter_congr]
    . simpa [hkey] using hreads.other
    . rw [h.asset_post]
      exact Function.update_of_ne (Ne.symm hkey) ..

theorem Effect.reads {event : Option (IronVaultEvent Pubkey)} (hs : Reachable s)
    (h : Effect s a s' event) (hreads : Counter.Reads log (s.spendCounter key) age) :
    Counter.Reads (event.toList.map (spendEntry key) ++ log) (s'.spendCounter key)
      (if resetsSpend key ⟨s, a, s'⟩ then 0 else age + event.toList.length) := by
  cases h with
  | dispatch => exact hreads
  | thirdParty => exact hreads
  | updateLimits h => simpa [resetsSpend] using h.reads hreads
  | withdraw h =>
    rw [h.event_eq]
    exact h.outflow.reads_event h.amount_pos rfl hreads
  | executeWithdrawal h =>
    rw [h.event_eq]
    apply h.outflow.reads_event (hs.withdrawalRequest h.request_eq).amount_pos _ hreads
    simp [Instruction.charge, h.request_eq]
  | @registerAsset ctx _ _ _ _ h =>
    have hcounter : s'.spendCounter key = s.spendCounter key := by
      by_cases hkey : key = ctx.vaultAsset
      . have hnone := (State.vacant_of_unallocated h.fresh).vaultAsset
        simp [State.spendCounter, h.post_eq, hkey, hnone]
      . apply State.spendCounter_congr
        rw [h.post_eq]
        exact Function.update_of_ne hkey ..
    rw [h.event_eq, hcounter]
    exact hreads.other
  | createEscrow _ h =>
    rw [h.event_eq, State.spendCounter_congr (by rw [h.post_eq])]
    exact hreads.other
  | createVault _ h =>
    rw [h.event_eq, State.spendCounter_congr (by rw [h.post_eq])]
    exact hreads.other
  | deposit _ h =>
    rw [h.event_eq, State.spendCounter_congr (by rw [h.post_eq])]
    exact hreads.other
  | releaseEscrow h =>
    rw [h.event_eq, State.spendCounter_congr (by rw [h.settled.post_eq])]
    exact hreads.other
  | refundEscrow h =>
    rw [h.event_eq, State.spendCounter_congr (by rw [h.settled.post_eq])]
    exact hreads.other
  | _ h =>
    rw [h.event_eq, State.spendCounter_congr (by rw [h.post_eq])]
    exact hreads.other

end Step

theorem History.reads (h : History tr s) (key : Pubkey) :
    Counter.Reads ((emittedEvents tr).reverse.map (spendEntry key)) (s.spendCounter key)
      (resetAge key tr) := by
  induction h with
  | nil => exact .nil
  | @snoc tr s s' a run hstep ih =>
    obtain ⟨event, hemitted, heffect⟩ := hstep.effect
    have hlog : emittedEvents (tr ++ [⟨s, a, s'⟩]) = emittedEvents tr ++ event.toList := by
      unfold emittedEvents
      cases event <;> simp [hemitted]
    have hage : resetAge key (tr ++ [⟨s, a, s'⟩]) =
        if resetsSpend key ⟨s, a, s'⟩ then 0 else resetAge key tr + event.toList.length := by
      simp [resetAge, hemitted]
    have hreverse : event.toList.reverse = event.toList := by cases event <;> rfl
    rw [hlog, hage, List.reverse_append, hreverse, List.map_append]
    exact heffect.reads ⟨tr, run⟩ ih

theorem Reachable.spent_eq_zero {asset : VaultAsset Pubkey} (hs : Reachable s)
    (hasset : s.vaultAsset key = some asset) (hzero : asset.windowSeconds = 0) :
    asset.windowSpent = 0 := by
  rcases hs.unconfigured_or_configured hasset with h | h
  . exact h.windowSpent
  . have hpos := h.windowSeconds_pos
    simp [hzero] at hpos

end

theorem sameSpend_iff {s₁ s₂ : State Pubkey} (hs₁ : Reachable s₁) (hs₂ : Reachable s₂)
    (hpublished : s₁.published = s₂.published) (key : Pubkey) :
    SameSpend key s₁ s₂ ↔ s₁.spendCounter key = s₂.spendCounter key := by
  have hasset : (s₁.vaultAsset key).map VaultAsset.published
      = (s₂.vaultAsset key).map VaultAsset.published :=
    congrArg (fun p => p.asset key) hpublished
  unfold SameSpend State.spendCounter
  cases h₁ : s₁.vaultAsset key with
  | none =>
    cases h₂ : s₂.vaultAsset key with
    | none => simp
    | some asset₂ => simp [h₁, h₂] at hasset
  | some asset₁ =>
    cases h₂ : s₂.vaultAsset key with
    | none => simp [h₁, h₂] at hasset
    | some asset₂ =>
      rw [h₁, h₂, Option.map_some, Option.map_some, Option.some.injEq] at hasset
      have hseconds : asset₁.windowSeconds = asset₂.windowSeconds :=
        congrArg (fun asset => asset.policy.windowSeconds) hasset
      by_cases hzero : asset₂.windowSeconds = 0
      . rw [hzero] at hseconds
        simp [hs₁.spent_eq_zero h₁ hseconds, hs₂.spent_eq_zero h₂ hzero, hseconds, hzero]
      . simp [hseconds, hzero, UInt64.toNat_inj]

theorem window_spend_reconstructible_iff {tr₁ tr₂ : List (Transition (State Pubkey) (Action Pubkey))}
    {s₁ s₂ : State Pubkey} (h₁ : History tr₁ s₁) (h₂ : History tr₂ s₂)
    (hevents : emittedEvents tr₁ = emittedEvents tr₂) (key : Pubkey) :
    SameSpend key s₁ s₂ ↔ resetAge key tr₁ = resetAge key tr₂ := by
  have hpublished : s₁.published = s₂.published := by rw [h₁.published, h₂.published, hevents]
  rw [sameSpend_iff ⟨tr₁, h₁⟩ ⟨tr₂, h₂⟩ hpublished]
  have hreads := h₁.reads key
  rw [hevents] at hreads
  exact hreads.count_eq_iff (h₂.reads key)

namespace Scenario

def spentTogether : List (Instruction Key × Int64) :=
  setup ++ [(updateLimits, 4), (withdraw 5, 5), (withdraw 5, 6)]

def spentApart : List (Instruction Key × Int64) :=
  setup ++ [(updateLimits, 4), (withdraw 5, 5), (withdraw 5, 200)]

end Scenario

open Scenario in
theorem window_spend_reconstructible_iff_requested :
    SameSpend vaultAsset (start.final requested) (start.final requestedIdle) :=
  (window_spend_reconstructible_iff history_requested
    (history_trace requestedIdle (by decide +kernel)) (by decide +kernel) vaultAsset).mpr
      (by decide +kernel)

open Scenario in
theorem window_spend_not_reconstructible :
    History (trace spentTogether) (start.final spentTogether) ∧
      History (trace spentApart) (start.final spentApart) ∧
      ClockOrdered (trace spentTogether) ∧ ClockOrdered (trace spentApart) ∧
      emittedEvents (trace spentTogether) = emittedEvents (trace spentApart) ∧
      ¬ SameSpend vaultAsset (start.final spentTogether) (start.final spentApart) := by
  refine ⟨history_trace _ (by decide +kernel), history_trace _ (by decide +kernel),
    by decide +kernel, by decide +kernel, by decide +kernel, ?_⟩
  unfold SameSpend
  decide +kernel

end IronVault
