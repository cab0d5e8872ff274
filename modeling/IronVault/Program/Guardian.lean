import IronVault.Program.Rotation

/-!
This module contains what the guardian of a vault cannot do. The guardian is chosen when the vault is
created and kept apart from the authority and from the role holders ever after.
-/

namespace IronVault

variable {Pubkey : Type} [DecidableEq Pubkey] [Solana Pubkey]

open Solana

structure Vault.GuardianConfined (vault : Vault Pubkey) (s : State Pubkey) (v : Pubkey) : Prop where
  guardian_ne_authority : vault.guardian ≠ vault.authority
  guardian_ne_default : vault.guardian ≠ defaultKey
  authority_ne_default : vault.authority ≠ defaultKey
  no_role {key : Pubkey} {role : RoleAssignment Pubkey} :
    s.roleAssignment key = some role → role.vault = v → role.active = true →
      role.principal ≠ vault.guardian
  rejected {ix : Instruction Pubkey} {now : Int64} : ActsOn v vault.guardian ix →
    (∀ ctx, ix ≠ .pauseVault ctx) → ∃ error, process s now ix = .error error

def Action.signer : Action Pubkey → Option Pubkey
  | .instruction ix _ => ix.signer
  | .thirdParty => none

def NoDefaultSigner (tr : List (Transition (State Pubkey) (Action Pubkey))) : Prop :=
  -- The default key signs nothing.
  ∀ t ∈ tr, t.action.signer ≠ some defaultKey

instance {tr : List (Transition (State Pubkey) (Action Pubkey))} : Decidable (NoDefaultSigner tr) :=
  inferInstanceAs (Decidable (∀ t ∈ tr, t.action.signer ≠ some defaultKey))

section

variable {s s' : State Pubkey} {a : Action Pubkey} {v : Pubkey}
  {tr : List (Transition (State Pubkey) (Action Pubkey))}

theorem NoDefaultSigner.left {tr' : List (Transition (State Pubkey) (Action Pubkey))}
    (h : NoDefaultSigner (tr ++ tr')) : NoDefaultSigner tr := by
  intro t ht
  exact h t (List.mem_append_left _ ht)

theorem Step.guardian_kept (hstep : Step s a s') {vault : Vault Pubkey}
    (hvault : s.vault v = some vault) :
    ∃ vault', s'.vault v = some vault' ∧ vault'.guardian = vault.guardian ∧
      (vault'.authority = vault.authority ∨ vault'.authority ≠ defaultKey) := by
  cases hstep.vault_evolves hvault with
  | same hpost => exact ⟨_, hpost, rfl, .inl rfl⟩
  | rotated _ h hpost => exact ⟨_, hpost, rfl, .inr h.newAuthority_ne.1⟩
  | paused _ _ hpost => exact ⟨_, hpost, rfl, .inl rfl⟩
  | unpaused _ _ hpost => exact ⟨_, hpost, rfl, .inl rfl⟩
  | requested _ _ hpost => exact ⟨_, hpost, rfl, .inl rfl⟩

theorem History.ne_default (h : History tr s) (hsigner : NoDefaultSigner tr) {vault : Vault Pubkey}
    (hvault : s.vault v = some vault) :
    vault.guardian ≠ defaultKey ∧ vault.authority ≠ defaultKey := by
  induction h generalizing vault with
  | nil => simp [State.empty] at hvault
  | @snoc tr s s' a run hstep ih =>
    cases hold : s.vault v with
    | none =>
      obtain ⟨ctx, vaultId, guardian, now, event, rfl, haccepted, -, hauthority, rfl⟩ :=
        hstep.vault_of_none hold hvault
      refine ⟨haccepted.guardian_ne.1, ?_⟩
      intro hdefault
      apply hsigner _ (List.mem_append_right _ List.mem_cons_self)
      rw [← hdefault, hauthority]
      rfl
    | some old =>
      obtain ⟨hguardian, hauthority⟩ := ih hsigner.left hold
      obtain ⟨vault', hvault', hkept, hcases⟩ := hstep.guardian_kept hold
      rw [hvault, Option.some.injEq] at hvault'
      rw [hvault', hkept]
      refine ⟨hguardian, ?_⟩
      rcases hcases with heq | hne
      . rw [heq]
        exact hauthority
      . exact hne

theorem Reachable.principal_ne_guardian (hs : Reachable s) {vault : Vault Pubkey}
    (hvault : s.vault v = some vault) {key : Pubkey} {role : RoleAssignment Pubkey}
    (hrole : s.roleAssignment key = some role) (hrolevault : role.vault = v) :
    role.principal ≠ vault.guardian := by
  induction hs using Reachable.induction generalizing vault key role with
  | empty => simp [State.empty] at hrole
  | step s a s' hreach hstep ih =>
    -- a role that was there before belongs to a vault that was there before
    have hkeep {key : Pubkey} {role : RoleAssignment Pubkey} (h : s.roleAssignment key = some role)
        (hrolevault : role.vault = v) : role.principal ≠ vault.guardian := by
      obtain ⟨old, hold⟩ := hreach.vault_of_role h
      rw [hrolevault] at hold
      obtain ⟨vault', hvault', hkept, -⟩ := hstep.guardian_kept hold
      rw [hvault, Option.some.injEq] at hvault'
      rw [hvault', hkept]
      exact ih hold h hrolevault
    cases hstep.roleChange with
    | same h =>
      rw [h] at hrole
      exact hkeep hrole hrolevault
    | @grant ctx _ _ _ _ _ granter h =>
      have hpost := h.post_eq
      rw [h.post_eq, Function.update_some_eq_some] at hrole
      rcases hrole with ⟨-, rfl⟩ | ⟨-, hrole⟩
      . dsimp only at hrolevault ⊢
        subst hrolevault
        rw [hpost] at hvault
        dsimp only at hvault
        rw [h.vault_eq, Option.some.injEq] at hvault
        rw [← hvault]
        exact h.principal_ne.2.2
      . exact hkeep hrole hrolevault
    | revoke h =>
      rw [h.post_eq, Function.update_some_eq_some] at hrole
      rcases hrole with ⟨-, rfl⟩ | ⟨-, hrole⟩
      . have hne := hkeep h.role_eq hrolevault
        exact hne
      . exact hkeep hrole hrolevault

theorem Reachable.guardian_not_holdsPower (hs : Reachable s) {vault : Vault Pubkey}
    (hvault : s.vault v = some vault) : ¬ s.HoldsPower v vault.guardian := by
  intro hpower
  obtain ⟨permission, role, hrole, hrolevault, hprincipal, -⟩ := hpower.holdsRole
  exact hs.principal_ne_guardian hvault hrole hrolevault hprincipal

end

theorem guardian_confined {tr : List (Transition (State Pubkey) (Action Pubkey))} {s : State Pubkey}
    {v : Pubkey} {vault : Vault Pubkey} (h : History tr s) (hsigner : NoDefaultSigner tr)
    (hvault : s.vault v = some vault) : vault.GuardianConfined s v := by
  have hs : Reachable s := ⟨tr, h⟩
  have hne := (hs.vault hvault).guardian_ne
  obtain ⟨hguardian, hauthority⟩ := h.ne_default hsigner hvault
  refine ⟨hne, hguardian, hauthority, ?_, ?_⟩
  . intro key role hrole hrolevault _
    exact hs.principal_ne_guardian hvault hrole hrolevault
  . intro ix now hacts hpause
    apply hacts.rejected hvault hne.symm _ (hs.guardian_not_holdsPower hvault)
    rintro ⟨ctx, heq⟩
    exact absurd heq (hpause ctx)

open Scenario in
theorem guardian_confined_promoted :
    Vault.GuardianConfined { createdVault with authority := recipient } (start.final promoted)
      vault := by
  apply guardian_confined (history_trace promoted (by decide +kernel))
  . decide +kernel
  . decide +kernel

end IronVault
