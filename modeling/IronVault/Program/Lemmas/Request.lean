import IronVault.Program.Lemmas.Custody

/-!
This module contains the life of a withdrawal request along a run: the step that created it, and
what can happen to it afterwards.
-/

namespace IronVault

variable {Pubkey : Type} [DecidableEq Pubkey] [Solana Pubkey]

theorem Step.withdrawalRequest_of_none {s s' : State Pubkey} {a : Action Pubkey}
    (hstep : Step s a s') {key : Pubkey} {request : WithdrawalRequest Pubkey}
    (hnone : s.withdrawalRequest key = none) (hsome : s'.withdrawalRequest key = some request) :
    ∃ ctx now event vault asset recipientToken nextWithdrawalId,
      a = .instruction (.requestWithdrawal ctx request.amount) now ∧
      ctx.withdrawalRequest = key ∧ ctx.vault = request.vault ∧ ctx.mint = request.mint ∧
      ctx.vaultAsset = request.vaultAsset ∧
      request.createdAt = now ∧ request.status = .pending ∧
      RequestWithdrawal.Accepted ctx s request.amount now s' event vault asset recipientToken
        request.executeAfter request.expiresAt nextWithdrawalId := by
  cases hstep.requestChange with
  | same h => simp [h, hnone] at hsome
  | request h =>
    obtain ⟨rfl, rfl⟩ :=
      Function.written_of_none hnone hsome (congrArg State.withdrawalRequest h.post_eq)
    exact ⟨_, _, _, _, _, _, _, rfl, rfl, rfl, rfl, rfl, rfl, rfl, h⟩
  | execute h =>
    have hpost := congrArg State.withdrawalRequest h.post_eq
    simp [Function.update_eq_none hnone h.request_eq hpost] at hsome
  | cancel h =>
    have hpost := congrArg State.withdrawalRequest h.post_eq
    simp [Function.update_eq_none hnone h.request_eq hpost] at hsome

inductive WithdrawalRequest.Evolves (s : State Pubkey) (key : Pubkey)
    (request : WithdrawalRequest Pubkey) : Action Pubkey → State Pubkey → Prop where
  | same {a : Action Pubkey} {s' : State Pubkey} (h : s'.withdrawalRequest key = some request) :
      Evolves s key request a s'
  | executed {ctx : ExecuteWithdrawal Pubkey} {now : Int64} {s' : State Pubkey}
      {event : IronVaultEvent Pubkey} {vault : Vault Pubkey} {asset : VaultAsset Pubkey}
      {next : Int64 × UInt64} (hkey : ctx.withdrawalRequest = key)
      (h : ctx.Accepted s now s' event vault asset request next)
      (hpost : s'.withdrawalRequest key = some { request with status := .executed }) :
      Evolves s key request (.instruction (.executeWithdrawal ctx) now) s'
  | cancelled {ctx : CancelWithdrawal Pubkey} {now : Int64} {s' : State Pubkey}
      {event : IronVaultEvent Pubkey} {vault : Vault Pubkey} (hkey : ctx.withdrawalRequest = key)
      (h : ctx.Accepted s s' event vault request)
      (hpost : s'.withdrawalRequest key = some { request with status := .cancelled }) :
      Evolves s key request (.instruction (.cancelWithdrawal ctx) now) s'

theorem Step.evolves {s s' : State Pubkey} {a : Action Pubkey} (hstep : Step s a s') {key : Pubkey}
    {request : WithdrawalRequest Pubkey} (hrequest : s.withdrawalRequest key = some request) :
    request.Evolves s key a s' := by
  cases hstep.requestChange with
  | same h => exact .same (by rw [h, hrequest])
  | request h =>
    apply WithdrawalRequest.Evolves.same
    apply Function.update_of_vacant hrequest (State.vacant_of_unallocated h.fresh).withdrawalRequest
    exact congrArg State.withdrawalRequest h.post_eq
  | execute h =>
    have hpost := congrArg State.withdrawalRequest h.post_eq
    rcases Function.update_cases hrequest h.request_eq hpost with
      ⟨hkey, rfl, hpost⟩ | ⟨-, hpost⟩
    . exact .executed hkey h hpost
    . exact .same hpost
  | cancel h =>
    have hpost := congrArg State.withdrawalRequest h.post_eq
    rcases Function.update_cases hrequest h.request_eq hpost with
      ⟨hkey, rfl, hpost⟩ | ⟨-, hpost⟩
    . exact .cancelled hkey h hpost
    . exact .same hpost

theorem History.request_created {tr : List (Transition (State Pubkey) (Action Pubkey))}
    {s : State Pubkey} (h : History tr s) {key : Pubkey} {request : WithdrawalRequest Pubkey}
    (hrequest : s.withdrawalRequest key = some request) :
    ∃ before t after, tr = before ++ t :: after ∧ t.pre.withdrawalRequest key = none ∧
      t.post.withdrawalRequest key = some { request with status := .pending } := by
  induction h generalizing request with
  | nil => simp [State.empty] at hrequest
  | @snoc tr s s' a run hstep ih =>
    cases hold : s.withdrawalRequest key with
    | none =>
      obtain ⟨_, _, _, _, _, _, _, _, _, _, _, _, _, hpending, _⟩ :=
        hstep.withdrawalRequest_of_none hold hrequest
      refine ⟨tr, ⟨s, a, s'⟩, [], rfl, hold, ?_⟩
      rw [hrequest, ← hpending]
    | some old =>
      obtain ⟨before, t, after, rfl, hpre, hpost⟩ := ih hold
      have hterms : { request with status := .pending } = { old with status := .pending } := by
        cases hstep.evolves hold with
        | same h =>
          rw [hrequest, Option.some.injEq] at h
          rw [h]
        | executed _ _ h =>
          rw [hrequest, Option.some.injEq] at h
          rw [h]
        | cancelled _ _ h =>
          rw [hrequest, Option.some.injEq] at h
          rw [h]
      exact ⟨before, t, after ++ [⟨s, a, s'⟩], by simp, hpre, by rw [hpost, hterms]⟩

end IronVault
