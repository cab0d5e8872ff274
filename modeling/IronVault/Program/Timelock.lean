import IronVault.Program.Lemmas.Request
import IronVault.Program.Symbolic

/-!
This module contains the life of a timelocked withdrawal along a run: its terms are fixed when it is
requested, it ends at most once, and it pays out only between its delay and its expiry, as the
policy of the time of the request had them.
-/

namespace IronVault

variable {Pubkey : Type} [DecidableEq Pubkey] [Solana Pubkey]

structure RequestedUnder (t : Transition (State Pubkey) (Action Pubkey)) (key : Pubkey)
    (request : WithdrawalRequest Pubkey) (asset : VaultAsset Pubkey) : Prop where
  action_eq : ∃ ctx,
    t.action = .instruction (.requestWithdrawal ctx request.amount) request.createdAt
  pre_eq : t.pre.withdrawalRequest key = none
  post_eq : t.post.withdrawalRequest key = some { request with status := .pending }
  asset_eq : t.pre.vaultAsset (address (.vaultAsset request.vault request.mint)) = some asset
  delay_pos : 0 < asset.timelockSeconds.toInt
  window_pos : 0 < asset.requestExecutionWindowSeconds.toInt
  threshold_lt : asset.timelockThreshold < request.amount

def ExecutesRequest (key : Pubkey) (now : Int64)
    (t : Transition (State Pubkey) (Action Pubkey)) : Prop :=
  ∃ ctx, t.action = .instruction (.executeWithdrawal ctx) now ∧ ctx.withdrawalRequest = key

def EndsRequest (key : Pubkey) (t : Transition (State Pubkey) (Action Pubkey)) : Prop :=
  ∃ request request', t.pre.withdrawalRequest key = some request ∧
    t.post.withdrawalRequest key = some request' ∧ request'.status ≠ request.status

/--
`t` pays the pending `request` at `now`: exactly its amount moves to the account it names, which the
owner it names still owns, no earlier than the delay and no later than the window of `asset` allow.
-/
structure PaysRequest (t : Transition (State Pubkey) (Action Pubkey)) (key : Pubkey)
    (request : WithdrawalRequest Pubkey) (asset : VaultAsset Pubkey) (now : Int64) : Prop where
  request_eq : t.pre.withdrawalRequest key = some request
  pending : request.status = .pending
  executed : t.post.withdrawalRequest key = some { request with status := .executed }
  moves : Moves t.pre.token (address (.vaultToken request.vault request.mint))
    request.recipientTokenAccount request.amount t.post.token
  owner_eq : ∃ account, t.pre.token request.recipientTokenAccount = some account ∧
    account.owner = request.recipientOwner
  delay_le : request.createdAt.toInt + asset.timelockSeconds.toInt ≤ now.toInt
  le_expiry : now.toInt ≤ request.createdAt.toInt + asset.timelockSeconds.toInt
    + asset.requestExecutionWindowSeconds.toInt

structure RequestLifecycle (tr : List (Transition (State Pubkey) (Action Pubkey))) (s : State Pubkey)
    (key : Pubkey) : Prop where
  terms_constant {t : Transition (State Pubkey) (Action Pubkey)}
    {request : WithdrawalRequest Pubkey} :
    t ∈ tr → t.post.withdrawalRequest key = some request →
      ∃ status, s.withdrawalRequest key = some { request with status }
  status_change {t : Transition (State Pubkey) (Action Pubkey)}
    {request request' : WithdrawalRequest Pubkey} :
    t ∈ tr → t.pre.withdrawalRequest key = some request →
    t.post.withdrawalRequest key = some request' →
      request'.status = request.status ∨
        request.status = .pending ∧ (request'.status = .executed ∨ request'.status = .cancelled)
  ended_once {before after : List (Transition (State Pubkey) (Action Pubkey))}
    {t t' : Transition (State Pubkey) (Action Pubkey)} :
    tr = before ++ t :: after → EndsRequest key t → t' ∈ after → ¬ EndsRequest key t'
  executed_once {before after : List (Transition (State Pubkey) (Action Pubkey))}
    {t t' : Transition (State Pubkey) (Action Pubkey)} {now now' : Int64} :
    tr = before ++ t :: after → ExecutesRequest key now t → t' ∈ after →
      ¬ ExecutesRequest key now' t'
  requested {request : WithdrawalRequest Pubkey} :
    s.withdrawalRequest key = some request →
      ∃ t ∈ tr, ∃ asset, RequestedUnder t key request asset
  paid {before after : List (Transition (State Pubkey) (Action Pubkey))}
    {t : Transition (State Pubkey) (Action Pubkey)} {now : Int64} :
    tr = before ++ t :: after → ExecutesRequest key now t →
      ∃ t₀ ∈ before, ∃ request asset,
        RequestedUnder t₀ key request asset ∧ PaysRequest t key request asset now

section

variable {s s' : State Pubkey} {a : Action Pubkey} {key : Pubkey}
  {request request' : WithdrawalRequest Pubkey}
  {tr : List (Transition (State Pubkey) (Action Pubkey))}

theorem Run.withdrawalRequest_some (run : Run Step s tr s')
    (hrequest : s.withdrawalRequest key = some request) :
    ∃ status, s'.withdrawalRequest key = some { request with status } := by
  apply run.invariant (P := fun t => ∃ status, t.withdrawalRequest key = some { request with status })
  . exact ⟨request.status, hrequest⟩
  . rintro t a u - hstep ⟨status, hmid⟩
    cases hstep.evolves hmid with
    | same h => exact ⟨status, h⟩
    | executed _ _ h => exact ⟨_, h⟩
    | cancelled _ _ h => exact ⟨_, h⟩

theorem Step.withdrawalRequest_status (hstep : Step s a s')
    (hrequest : s.withdrawalRequest key = some request)
    (hrequest' : s'.withdrawalRequest key = some request') :
    request'.status = request.status ∨
      request.status = .pending ∧ (request'.status = .executed ∨ request'.status = .cancelled) := by
  cases hstep.evolves hrequest with
  | same h =>
    rw [hrequest', Option.some.injEq] at h
    exact .inl (by rw [h])
  | executed _ haccepted h =>
    rw [hrequest', Option.some.injEq] at h
    exact .inr ⟨haccepted.status_eq, .inl (by rw [h])⟩
  | cancelled _ haccepted h =>
    rw [hrequest', Option.some.injEq] at h
    exact .inr ⟨haccepted.status_eq, .inr (by rw [h])⟩

theorem Run.withdrawalRequest_ended (run : Run Step s tr s')
    (hrequest : s.withdrawalRequest key = some request) (hstatus : request.status ≠ .pending) :
    s'.withdrawalRequest key = some request := by
  apply run.invariant (P := fun t => t.withdrawalRequest key = some request) hrequest
  intro t a u _ hstep hmid
  cases hstep.evolves hmid with
  | same h => exact h
  | executed _ haccepted _ => exact absurd haccepted.status_eq hstatus
  | cancelled _ haccepted _ => exact absurd haccepted.status_eq hstatus

theorem Step.executesRequest {now : Int64} (hstep : Step s a s')
    (hexecute : ExecutesRequest key now ⟨s, a, s'⟩) :
    ∃ ctx event vault asset request next, ctx.withdrawalRequest = key ∧
      ExecuteWithdrawal.Accepted ctx s now s' event vault asset request next ∧
      s'.withdrawalRequest key = some { request with status := .executed } := by
  obtain ⟨ctx, haction, rfl⟩ := hexecute
  dsimp only at haction
  subst haction
  obtain ⟨event, -, heffect⟩ := hstep.effect
  cases heffect with
  | executeWithdrawal h =>
    refine ⟨ctx, _, _, _, _, _, rfl, h, ?_⟩
    rw [h.post_eq]
    exact Function.update_self ..

theorem History.requestedUnder (h : History tr s)
    (hrequest : s.withdrawalRequest key = some request) :
    ∃ t ∈ tr, ∃ asset, RequestedUnder t key request asset ∧
      request.executeAfter.toInt = request.createdAt.toInt + asset.timelockSeconds.toInt ∧
      request.expiresAt.toInt
        = request.executeAfter.toInt + asset.requestExecutionWindowSeconds.toInt := by
  -- The times of a request are those of the policy at the time of its creation, whatever the policy
  -- is now.
  obtain ⟨before, t, after, rfl, hpre, hpost⟩ := h.request_created hrequest
  obtain ⟨hbefore, hstep, -⟩ := Run.of_cons_append h
  obtain ⟨ctx, now, event, vault, asset, token, next, haction, -, hvault, hmint, -, hnow, -,
    haccepted⟩ := hstep.withdrawalRequest_of_none hpre hpost
  dsimp only at haction hvault hmint hnow haccepted
  have hnow_lt := Int64.lt_iff_toInt_lt.mp haccepted.now_lt
  have hafter_lt := Int64.lt_iff_toInt_lt.mp haccepted.executeAfter_lt
  have hafter := haccepted.executeAfter_eq
  have hexpires := haccepted.expiresAt_eq
  have hs : Reachable t.pre := ⟨before, hbefore⟩
  have hasset := haccepted.asset_eq
  rw [hs.asset_key hasset haccepted.asset_vault haccepted.asset_mint, hvault, hmint] at hasset
  subst hnow
  refine ⟨t, by simp, asset, ⟨⟨ctx, haction⟩, hpre, hpost, hasset, ?_, ?_,
    haccepted.threshold_lt⟩, hafter, hexpires⟩
  . omega
  . omega

theorem request_lifecycle (h : History tr s) (key : Pubkey) : RequestLifecycle tr s key where
  terms_constant := by
    intro t request hmem hrequest
    obtain ⟨before, after, rfl⟩ := List.append_of_mem hmem
    obtain ⟨-, -, hafter⟩ := Run.of_cons_append h
    exact Run.withdrawalRequest_some hafter hrequest
  status_change := by
    intro t request request' hmem hpre hpost
    obtain ⟨_, -, hstep⟩ := Run.of_mem h hmem
    exact hstep.withdrawalRequest_status hpre hpost
  ended_once := by
    rintro before after t t' htr ⟨request, request', hpre, hpost, hne⟩ hmem
      ⟨old, old', hpre', hpost', hne'⟩
    subst htr
    obtain ⟨-, hstep, hafter⟩ := Run.of_cons_append h
    have hended : request'.status ≠ .pending := by
      rcases hstep.withdrawalRequest_status hpre hpost with heq | ⟨-, heq | heq⟩
      . exact absurd heq hne
      . simp [heq]
      . simp [heq]
    obtain ⟨tr', hmid, hstep'⟩ := hafter.of_mem hmem
    have hmid := Run.withdrawalRequest_ended hmid hpost hended
    rw [hpre', Option.some.injEq] at hmid
    subst hmid
    have hpost := Run.withdrawalRequest_ended (.snoc .nil hstep') hpre' hended
    rw [hpost', Option.some.injEq] at hpost
    exact hne' (by rw [hpost])
  executed_once := by
    intro before after t t' now now' htr hexecute hmem hexecute'
    subst htr
    obtain ⟨-, hstep, hafter⟩ := Run.of_cons_append h
    obtain ⟨_, _, _, _, request, _, -, -, hpost⟩ := hstep.executesRequest hexecute
    obtain ⟨tr', hmid, hstep'⟩ := hafter.of_mem hmem
    have hmid := Run.withdrawalRequest_ended hmid hpost (by simp)
    obtain ⟨ctx, _, _, _, request', _, hkey, haccepted, -⟩ := hstep'.executesRequest hexecute'
    have hrequest := haccepted.request_eq
    rw [hkey, hmid, Option.some.injEq] at hrequest
    have hpending := haccepted.status_eq
    simp [← hrequest] at hpending
  requested := by
    intro request hrequest
    obtain ⟨t, hmem, asset, hunder, -⟩ := h.requestedUnder hrequest
    exact ⟨t, hmem, asset, hunder⟩
  paid := by
    intro before after t now htr hexecute
    subst htr
    obtain ⟨hbefore, hstep, -⟩ := Run.of_cons_append h
    obtain ⟨ctx, _, vault, _, request, _, hkey, haccepted, hpost⟩ := hstep.executesRequest hexecute
    have hrequest := haccepted.request_eq
    rw [hkey] at hrequest
    obtain ⟨t₀, hmem, asset, hunder, hafter, hexpires⟩ := History.requestedUnder hbefore hrequest
    have hle := Int64.le_iff_toInt_le.mp haccepted.le_now
    have hge := Int64.le_iff_toInt_le.mp haccepted.now_le
    have hs : Reachable t.pre := ⟨before, hbefore⟩
    have hmoves := haccepted.outflow.moves (hs.withdrawalRequest hrequest).amount_pos
    rw [haccepted.outflow.custody_eq, haccepted.recipient_eq, ← haccepted.request_vault,
      ← haccepted.request_mint] at hmoves
    have howner := haccepted.recipient_owner
    rw [haccepted.recipient_eq] at howner
    refine ⟨t₀, hmem, request, asset, hunder, ⟨hrequest, haccepted.status_eq, hpost, hmoves, howner,
      ?_, ?_⟩⟩
    . omega
    . omega

end

open Scenario in
theorem request_lifecycle_execution :
    RequestLifecycle (trace (requested ++ [(executeWithdrawal, 16)]))
      (start.final (requested ++ [(executeWithdrawal, 16)])) (address (.withdrawal vault 0)) :=
  request_lifecycle history_executed _

end IronVault
