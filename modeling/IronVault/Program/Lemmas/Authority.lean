import IronVault.Program.Lemmas.WellFormed

/-!
This module contains what a step does to a vault and to its roles.
-/

namespace IronVault

variable {Pubkey : Type} [DecidableEq Pubkey] [Solana Pubkey]

def Instruction.vault : Instruction Pubkey → Option Pubkey
  | .createVault ctx _ _ => some ctx.vault
  | .setVaultAuthority ctx _ => some ctx.vault
  | .pauseVault ctx => some ctx.vault
  | .unpauseVault ctx => some ctx.vault
  | .registerAsset ctx => some ctx.vault
  | .deposit ctx _ => some ctx.vault
  | .withdraw ctx _ => some ctx.vault
  | .grantRole ctx _ _ => some ctx.vault
  | .revokeRole ctx _ => some ctx.vault
  | .updateLimits ctx _ => some ctx.vault
  | .requestWithdrawal ctx _ => some ctx.vault
  | .executeWithdrawal ctx => some ctx.vault
  | .cancelWithdrawal ctx => some ctx.vault
  | _ => none

inductive Vault.Evolves (s : State Pubkey) (v : Pubkey) (vault : Vault Pubkey) :
    Action Pubkey → State Pubkey → Prop where
  | same {a : Action Pubkey} {s' : State Pubkey} (hpost : s'.vault v = some vault) :
      Evolves s v vault a s'
  | rotated {ctx : SetVaultAuthority Pubkey} {newAuthority : Pubkey} {now : Int64}
      {s' : State Pubkey} {event : IronVaultEvent Pubkey} (hkey : ctx.vault = v)
      (h : ctx.Accepted s newAuthority s' event vault)
      (hpost : s'.vault v = some { vault with authority := newAuthority }) :
      Evolves s v vault (.instruction (.setVaultAuthority ctx newAuthority) now) s'
  | paused {ctx : PauseVault Pubkey} {now : Int64} {s' : State Pubkey}
      {event : IronVaultEvent Pubkey} (hkey : ctx.vault = v) (h : ctx.Accepted s s' event vault)
      (hpost : s'.vault v = some { vault with paused := true }) :
      Evolves s v vault (.instruction (.pauseVault ctx) now) s'
  | unpaused {ctx : UnpauseVault Pubkey} {now : Int64} {s' : State Pubkey}
      {event : IronVaultEvent Pubkey} (hkey : ctx.vault = v) (h : ctx.Accepted s s' event vault)
      (hpost : s'.vault v = some { vault with paused := false }) :
      Evolves s v vault (.instruction (.unpauseVault ctx) now) s'
  | requested {ctx : RequestWithdrawal Pubkey} {amount : UInt64} {now : Int64}
      {s' : State Pubkey} {event : IronVaultEvent Pubkey} {asset : VaultAsset Pubkey}
      {recipientToken : TokenAccount Pubkey} {executeAfter expiresAt : Int64}
      {nextWithdrawalId : UInt64} (hkey : ctx.vault = v)
      (h : ctx.Accepted s amount now s' event vault asset recipientToken executeAfter expiresAt
        nextWithdrawalId)
      (hpost : s'.vault v = some { vault with nextWithdrawalId }) :
      Evolves s v vault (.instruction (.requestWithdrawal ctx amount) now) s'

section

variable {s s' : State Pubkey} {a : Action Pubkey} {v : Pubkey} {vault : Vault Pubkey}

theorem Step.vault_evolves (hstep : Step s a s') (hvault : s.vault v = some vault) :
    vault.Evolves s v a s' := by
  cases hstep.vaultChange with
  | same h => exact .same (by rw [h, hvault])
  | create h =>
    apply Vault.Evolves.same
    apply Function.update_of_vacant hvault (State.vacant_of_unallocated h.fresh).vault
    exact congrArg State.vault h.post_eq
  | setAuthority h =>
    rcases Function.update_cases hvault h.vault_eq (congrArg State.vault h.post_eq) with
      ⟨hkey, rfl, hpost⟩ | ⟨-, hpost⟩
    . exact .rotated hkey h hpost
    . exact .same hpost
  | pause h =>
    rcases Function.update_cases hvault h.vault_eq (congrArg State.vault h.post_eq) with
      ⟨hkey, rfl, hpost⟩ | ⟨-, hpost⟩
    . exact .paused hkey h hpost
    . exact .same hpost
  | unpause h =>
    rcases Function.update_cases hvault h.vault_eq (congrArg State.vault h.post_eq) with
      ⟨hkey, rfl, hpost⟩ | ⟨-, hpost⟩
    . exact .unpaused hkey h hpost
    . exact .same hpost
  | request h =>
    rcases Function.update_cases hvault h.vault_eq (congrArg State.vault h.post_eq) with
      ⟨hkey, rfl, hpost⟩ | ⟨-, hpost⟩
    . exact .requested hkey h hpost
    . exact .same hpost

theorem Step.vault_of_none (hstep : Step s a s') (hnone : s.vault v = none)
    (hvault : s'.vault v = some vault) :
    ∃ ctx vaultId guardian now event, a = .instruction (.createVault ctx vaultId guardian) now ∧
      ctx.Accepted s vaultId guardian s' event ∧ ctx.vault = v ∧ vault.authority = ctx.authority ∧
      vault.guardian = guardian := by
  cases hstep.vaultChange with
  | same h => simp [h, hnone] at hvault
  | create h =>
    obtain ⟨hkey, rfl⟩ := Function.written_of_none hnone hvault (congrArg State.vault h.post_eq)
    exact ⟨_, _, _, _, _, rfl, h, hkey, rfl, rfl⟩
  | setAuthority h =>
    simp [Function.update_eq_none hnone h.vault_eq (congrArg State.vault h.post_eq)] at hvault
  | pause h =>
    simp [Function.update_eq_none hnone h.vault_eq (congrArg State.vault h.post_eq)] at hvault
  | unpause h =>
    simp [Function.update_eq_none hnone h.vault_eq (congrArg State.vault h.post_eq)] at hvault
  | request h =>
    simp [Function.update_eq_none hnone h.vault_eq (congrArg State.vault h.post_eq)] at hvault

end

def AuthoritySigns (v : Pubkey) (t : Transition (State Pubkey) (Action Pubkey)) : Prop :=
  ∃ ix now vault, t.action = .instruction ix now ∧ ix.vault = some v ∧
    t.pre.vault v = some vault ∧ ix.signer = some vault.authority

instance {v : Pubkey} {t : Transition (State Pubkey) (Action Pubkey)} :
    Decidable (AuthoritySigns v t) :=
  match ha : t.action with
  | .thirdParty => isFalse (by simp [AuthoritySigns, ha])
  | .instruction ix now =>
    decidable_of_iff
      (ix.vault = some v ∧ (t.pre.vault v).any fun vault => ix.signer = some vault.authority)
      (by simp [AuthoritySigns, ha, Option.any_eq_true])

section

variable {s s' : State Pubkey} {a : Action Pubkey} {key : Pubkey} {role : RoleAssignment Pubkey}

theorem Step.role_origin (hstep : Step s a s') (hrole : s'.roleAssignment key = some role)
    (hunsigned : ¬ AuthoritySigns role.vault ⟨s, a, s'⟩) : s.roleAssignment key = some role := by
  cases hstep.roleChange with
  | same h => rw [← h, hrole]
  | grant h =>
    rw [h.post_eq, Function.update_some_eq_some] at hrole
    rcases hrole with ⟨-, rfl⟩ | ⟨-, hrole⟩
    . exact absurd ⟨_, _, _, rfl, rfl, h.vault_eq, congrArg some h.authority_eq.symm⟩ hunsigned
    . exact hrole
  | revoke h =>
    rw [h.post_eq, Function.update_some_eq_some] at hrole
    rcases hrole with ⟨-, rfl⟩ | ⟨-, hrole⟩
    . refine absurd ⟨_, _, _, rfl, ?_, ?_, congrArg some h.authority_eq.symm⟩ hunsigned
      . exact congrArg some h.role_vault.symm
      . dsimp only
        rw [h.role_vault]
        exact h.vault_eq
    . exact hrole

theorem Step.role_kept (hs : Reachable s) (hstep : Step s a s')
    (hrole : s.roleAssignment key = some role)
    (hunsigned : ¬ AuthoritySigns role.vault ⟨s, a, s'⟩) : s'.roleAssignment key = some role := by
  cases hstep.roleChange with
  | same h => rw [h, hrole]
  | @grant ctx _ _ _ _ _ _ h =>
    have hne : key ≠ ctx.roleAssignment := by
      rintro rfl
      have hkey := (hs.roleAssignment hrole).key_eq
      rw [h.key_eq, address_inj, Seeds.role.injEq] at hkey
      rw [← hkey.1] at hunsigned
      exact hunsigned ⟨_, _, _, rfl, rfl, h.vault_eq, congrArg some h.authority_eq.symm⟩
    rw [h.post_eq, ← hrole]
    exact Function.update_of_ne hne ..
  | @revoke ctx _ _ _ _ _ _ h =>
    have hne : key ≠ ctx.roleAssignment := by
      rintro rfl
      have hold := h.role_eq
      rw [hrole, Option.some.injEq] at hold
      rw [hold, h.role_vault] at hunsigned
      exact hunsigned ⟨_, _, _, rfl, rfl, h.vault_eq, congrArg some h.authority_eq.symm⟩
    rw [h.post_eq, ← hrole]
    exact Function.update_of_ne hne ..

end

end IronVault
