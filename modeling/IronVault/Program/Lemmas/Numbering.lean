import IronVault.Program.Lemmas.Authority
import IronVault.Program.Lemmas.Request

/-!
This module contains the numbering of the withdrawal requests of a vault: the counter never goes
back, and the requests that exist are those below it.
-/

namespace IronVault

variable {Pubkey : Type} [DecidableEq Pubkey] [Solana Pubkey]
variable {s s' : State Pubkey} {a : Action Pubkey} {v : Pubkey} {vault : Vault Pubkey}

/--
A request takes the number of the counter, at an address that was not in use.
-/
theorem RequestWithdrawal.Accepted.created {ctx : RequestWithdrawal Pubkey} {amount : UInt64}
    {now : Int64} {event : IronVaultEvent Pubkey} {asset : VaultAsset Pubkey}
    {recipientToken : TokenAccount Pubkey} {executeAfter expiresAt : Int64}
    {nextWithdrawalId : UInt64}
    (h : ctx.Accepted s amount now s' event vault asset recipientToken executeAfter expiresAt
      nextWithdrawalId) :
    s.withdrawalRequest (address (.withdrawal ctx.vault vault.nextWithdrawalId)) = none ∧
    ∃ request, request.vault = ctx.vault ∧ request.withdrawalId = vault.nextWithdrawalId ∧
      s'.withdrawalRequest = Function.update s.withdrawalRequest
        (address (.withdrawal ctx.vault vault.nextWithdrawalId)) (some request) := by
  have hfresh := (State.vacant_of_unallocated h.fresh).withdrawalRequest
  have hpost := congrArg State.withdrawalRequest h.post_eq
  rw [h.key_eq] at hfresh hpost
  exact ⟨hfresh, _, rfl, rfl, hpost⟩

/--
The counter of a vault stays, or a request with the number it had is created.
-/
theorem Step.counter (hstep : Step s a s') (hvault : s.vault v = some vault) :
    ∃ vault', s'.vault v = some vault' ∧
      (vault'.nextWithdrawalId = vault.nextWithdrawalId ∨
        vault'.nextWithdrawalId.toNat = vault.nextWithdrawalId.toNat + 1 ∧
        ∃ request,
          s'.withdrawalRequest (address (.withdrawal v vault.nextWithdrawalId)) = some request ∧
          request.vault = v ∧ request.withdrawalId = vault.nextWithdrawalId) := by
  cases hstep.vault_evolves hvault with
  | same hpost => exact ⟨_, hpost, .inl rfl⟩
  | rotated _ _ hpost => exact ⟨_, hpost, .inl rfl⟩
  | paused _ _ hpost => exact ⟨_, hpost, .inl rfl⟩
  | unpaused _ _ hpost => exact ⟨_, hpost, .inl rfl⟩
  | requested hkey h hpost =>
    subst hkey
    obtain ⟨-, request, hvault, hid, hrequests⟩ := h.created
    refine ⟨_, hpost, .inr ⟨h.nextWithdrawalId_eq, request, ?_, hvault, hid⟩⟩
    rw [hrequests, Function.update_self]

theorem Step.counter_le (hstep : Step s a s') (hvault : s.vault v = some vault) :
    ∃ vault', s'.vault v = some vault' ∧
      vault.nextWithdrawalId.toNat ≤ vault'.nextWithdrawalId.toNat := by
  obtain ⟨vault', hvault', hnext | ⟨hnext, -⟩⟩ := hstep.counter hvault
  . exact ⟨vault', hvault', by rw [hnext]⟩
  . exact ⟨vault', hvault', by omega⟩

theorem Run.counter_le {tr : List (Transition (State Pubkey) (Action Pubkey))}
    (hrun : Run Step s tr s') (hvault : s.vault v = some vault) :
    ∃ vault', s'.vault v = some vault' ∧
      vault.nextWithdrawalId.toNat ≤ vault'.nextWithdrawalId.toNat := by
  induction hrun with
  | nil => exact ⟨vault, hvault, Nat.le_refl _⟩
  | snoc _ hstep ih =>
    obtain ⟨vault₁, hvault₁, hle₁⟩ := ih
    obtain ⟨vault₂, hvault₂, hle₂⟩ := hstep.counter_le hvault₁
    exact ⟨vault₂, hvault₂, hle₁.trans hle₂⟩

theorem Step.counter_of_none (hstep : Step s a s') (hnone : s.vault v = none)
    (hvault : s'.vault v = some vault) : vault.nextWithdrawalId = 0 := by
  obtain ⟨ctx, vaultId, guardian, now, event, rfl, h, rfl, -⟩ := hstep.vault_of_none hnone hvault
  rw [h.post_eq] at hvault
  dsimp only at hvault
  rw [Function.update_self, Option.some.injEq] at hvault
  rw [← hvault]

theorem Step.request_numbered (hstep : Step s a s') {key : Pubkey}
    {request : WithdrawalRequest Pubkey} (hrequest : s.withdrawalRequest key = some request) :
    ∃ request', s'.withdrawalRequest key = some request' ∧ request'.vault = request.vault ∧
      request'.withdrawalId = request.withdrawalId := by
  cases hstep.evolves hrequest with
  | same h => exact ⟨_, h, rfl, rfl⟩
  | executed _ _ h => exact ⟨_, h, rfl, rfl⟩
  | cancelled _ _ h => exact ⟨_, h, rfl, rfl⟩

theorem Reachable.request_below (hs : Reachable s) {key : Pubkey}
    {request : WithdrawalRequest Pubkey} (hrequest : s.withdrawalRequest key = some request) :
    ∃ vault, s.vault request.vault = some vault ∧
      request.withdrawalId.toNat < vault.nextWithdrawalId.toNat := by
  induction hs using Reachable.induction generalizing key request with
  | empty => simp [State.empty] at hrequest
  | step s a s' hreach hstep ih =>
    cases hold : s.withdrawalRequest key with
    | none =>
      obtain ⟨ctx, now, event, vault, asset, recipientToken, next, -, rfl, hvault, -, -, -, -, h⟩ :=
        hstep.withdrawalRequest_of_none hold hrequest
      have hpost := h.post_eq
      rw [hpost] at hrequest
      dsimp only at hrequest
      rw [Function.update_self, Option.some.injEq] at hrequest
      have hnext := h.nextWithdrawalId_eq
      refine ⟨{ vault with nextWithdrawalId := next }, ?_, ?_⟩
      . rw [hpost, ← hvault]
        exact Function.update_self ..
      . rw [← hrequest]
        dsimp only
        omega
    | some old =>
      obtain ⟨request', hrequest', hvault, hid⟩ := hstep.request_numbered hold
      rw [hrequest, Option.some.injEq] at hrequest'
      subst hrequest'
      obtain ⟨vault, hvault', hlt⟩ := ih hold
      obtain ⟨vault', hpost, hle⟩ := hstep.counter_le hvault'
      exact ⟨vault', by rw [hvault, hpost], by rw [hid]; omega⟩

theorem Reachable.exists_request (hs : Reachable s) (hvault : s.vault v = some vault) {id : UInt64}
    (hid : id.toNat < vault.nextWithdrawalId.toNat) :
    ∃ request, s.withdrawalRequest (address (.withdrawal v id)) = some request ∧
      request.vault = v ∧ request.withdrawalId = id := by
  induction hs using Reachable.induction generalizing vault with
  | empty => simp [State.empty] at hvault
  | step s a s' hreach hstep ih =>
    cases hold : s.vault v with
    | none =>
      rw [hstep.counter_of_none hold hvault] at hid
      simp at hid
    | some old =>
      obtain ⟨vault', hvault', hcounter⟩ := hstep.counter hold
      rw [hvault, Option.some.injEq] at hvault'
      subst hvault'
      -- A request below the old counter is kept; the only other one was created by this step.
      have hkept (hlt : id.toNat < old.nextWithdrawalId.toNat) :
          ∃ request, s'.withdrawalRequest (address (.withdrawal v id)) = some request ∧
            request.vault = v ∧ request.withdrawalId = id := by
        obtain ⟨request, hrequest, hv, hnumber⟩ := ih hold hlt
        obtain ⟨request', hrequest', hv', hnumber'⟩ := hstep.request_numbered hrequest
        exact ⟨request', hrequest', hv'.trans hv, hnumber'.trans hnumber⟩
      rcases hcounter with hnext | ⟨hnext, hcreated⟩
      . rw [hnext] at hid
        exact hkept hid
      . by_cases hlt : id.toNat < old.nextWithdrawalId.toNat
        . exact hkept hlt
        . have heq : id = old.nextWithdrawalId := UInt64.toNat_inj.mp (by omega)
          rw [heq]
          exact hcreated

/--
The requests of a vault are numbered from 0 up to the counter, each at the address of its number.
-/
structure RequestsNumbered (s : State Pubkey) (v : Pubkey) (vault : Vault Pubkey) : Prop where
  exists_iff (id : UInt64) : id < vault.nextWithdrawalId ↔
    ∃ request, s.withdrawalRequest (address (.withdrawal v id)) = some request ∧
      request.vault = v ∧ request.withdrawalId = id
  key_eq {key : Pubkey} {request : WithdrawalRequest Pubkey} :
    s.withdrawalRequest key = some request → request.vault = v →
      key = address (.withdrawal v request.withdrawalId) ∧
        request.withdrawalId < vault.nextWithdrawalId

theorem Reachable.requestsNumbered (hs : Reachable s) (hvault : s.vault v = some vault) :
    RequestsNumbered s v vault := by
  have hbelow {key : Pubkey} {request : WithdrawalRequest Pubkey}
      (hrequest : s.withdrawalRequest key = some request) (hv : request.vault = v) :
      request.withdrawalId < vault.nextWithdrawalId := by
    obtain ⟨vault', hvault', hlt⟩ := hs.request_below hrequest
    rw [hv, hvault, Option.some.injEq] at hvault'
    rw [hvault', UInt64.lt_iff_toNat_lt]
    exact hlt
  constructor
  . intro id
    constructor
    . intro hlt
      exact hs.exists_request hvault (UInt64.lt_iff_toNat_lt.mp hlt)
    . rintro ⟨request, hrequest, hv, rfl⟩
      exact hbelow hrequest hv
  . intro key request hrequest hv
    refine ⟨?_, hbelow hrequest hv⟩
    rw [(hs.withdrawalRequest hrequest).canonical.key_eq, hv]

end IronVault
