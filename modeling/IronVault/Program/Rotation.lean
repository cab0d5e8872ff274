import IronVault.Program.Lemmas.Authority
import IronVault.Program.Symbolic

/-!
This module contains what a key can still do in a vault after it was replaced as the authority.
`grant_role` refuses the current authority, but `set_vault_authority` installs a key that holds a
role, and that role outlives the authority.
-/

namespace IronVault

variable {Pubkey : Type} [DecidableEq Pubkey] [Solana Pubkey]

def Rotates (t : Transition (State Pubkey) (Action Pubkey)) (v old new : Pubkey) : Prop :=
  (∃ ctx now, t.action = .instruction (.setVaultAuthority ctx new) now ∧ ctx.vault = v) ∧
    ∃ vault, t.pre.vault v = some vault ∧ vault.authority = old

inductive ActsOn (v signer : Pubkey) : Instruction Pubkey → Prop where
  | withdraw (ctx : Withdraw Pubkey) (amount : UInt64) (hvault : ctx.vault = v)
      (hsigner : ctx.caller = signer) : ActsOn v signer (.withdraw ctx amount)
  | requestWithdrawal (ctx : RequestWithdrawal Pubkey) (amount : UInt64) (hvault : ctx.vault = v)
      (hsigner : ctx.proposer = signer) : ActsOn v signer (.requestWithdrawal ctx amount)
  | updateLimits (ctx : UpdateLimits Pubkey) (policy : Policy) (hvault : ctx.vault = v)
      (hsigner : ctx.caller = signer) : ActsOn v signer (.updateLimits ctx policy)
  | registerAsset (ctx : RegisterAsset Pubkey) (hvault : ctx.vault = v)
      (hsigner : ctx.authority = signer) : ActsOn v signer (.registerAsset ctx)
  | grantRole (ctx : GrantRole Pubkey) (principal : Pubkey) (permissions : UInt64)
      (hvault : ctx.vault = v) (hsigner : ctx.authority = signer) :
      ActsOn v signer (.grantRole ctx principal permissions)
  | revokeRole (ctx : RevokeRole Pubkey) (principal : Pubkey) (hvault : ctx.vault = v)
      (hsigner : ctx.authority = signer) : ActsOn v signer (.revokeRole ctx principal)
  | setVaultAuthority (ctx : SetVaultAuthority Pubkey) (newAuthority : Pubkey)
      (hvault : ctx.vault = v) (hsigner : ctx.currentAuthority = signer) :
      ActsOn v signer (.setVaultAuthority ctx newAuthority)
  | pauseVault (ctx : PauseVault Pubkey) (hvault : ctx.vault = v) (hsigner : ctx.caller = signer) :
      ActsOn v signer (.pauseVault ctx)
  | unpauseVault (ctx : UnpauseVault Pubkey) (hvault : ctx.vault = v)
      (hsigner : ctx.authority = signer) : ActsOn v signer (.unpauseVault ctx)

/--
Every such instruction is rejected, whatever accounts and arguments it brings and whenever it comes.
-/
def Powerless (s : State Pubkey) (v signer : Pubkey) : Prop :=
  ∀ ix now, ActsOn v signer ix → ∃ error, process s now ix = .error error

def State.HoldsPower (s : State Pubkey) (v key : Pubkey) : Prop :=
  s.HoldsRole v key permissionWithdraw ∨ s.HoldsRole v key permissionRequestWithdrawal ∨
    s.HoldsRole v key permissionManageLimits

theorem State.HoldsPower.holdsRole {s : State Pubkey} {v key : Pubkey} (h : s.HoldsPower v key) :
    ∃ permission, s.HoldsRole v key permission := by
  rcases h with h | h | h
  . exact ⟨_, h⟩
  . exact ⟨_, h⟩
  . exact ⟨_, h⟩

theorem ActsOn.rejected {s : State Pubkey} {v signer : Pubkey} {vault : Vault Pubkey}
    {ix : Instruction Pubkey} (hacts : ActsOn v signer ix) (hvault : s.vault v = some vault)
    (hauthority : vault.authority ≠ signer)
    (hguardian : (∃ ctx, ix = .pauseVault ctx) → vault.guardian ≠ signer)
    (hpower : ¬ s.HoldsPower v signer) (now : Int64) : ∃ error, process s now ix = .error error := by
  have hvault_eq {vault' : Vault Pubkey} (h : s.vault v = some vault') : vault' = vault := by
    rw [hvault, Option.some.injEq] at h
    exact h.symm
  cases hprocess : process s now ix with
  | error error => exact ⟨error, rfl⟩
  | ok result =>
    exfalso
    obtain ⟨s', event⟩ := result
    cases hacts with
    | withdraw ctx amount hv hsigner =>
      subst hv hsigner
      obtain ⟨_, -, vault', _, _, h⟩ := process_accepted hprocess
      rcases h.authorized with heq | hrole
      . exact hauthority (by rw [heq, hvault_eq h.outflow.vault_eq])
      . exact hpower (.inl hrole)
    | requestWithdrawal ctx amount hv hsigner =>
      subst hv hsigner
      obtain ⟨_, -, vault', _, _, _, _, _, h⟩ := process_accepted hprocess
      rcases h.authorized with heq | hrole
      . exact hauthority (by rw [heq, hvault_eq h.vault_eq])
      . exact hpower (.inr (.inl hrole))
    | updateLimits ctx policy hv hsigner =>
      subst hv hsigner
      obtain ⟨_, -, vault', _, _, h⟩ := process_accepted hprocess
      rcases h.authorized with heq | hrole
      . exact hauthority (by rw [heq, hvault_eq h.vault_eq])
      . exact hpower (.inr (.inr hrole))
    | registerAsset ctx hv hsigner =>
      subst hv hsigner
      obtain ⟨_, -, vault', h⟩ := process_accepted hprocess
      exact hauthority (by rw [← h.authority_eq, hvault_eq h.vault_eq])
    | grantRole ctx principal permissions hv hsigner =>
      subst hv hsigner
      obtain ⟨_, -, vault', h⟩ := process_accepted hprocess
      exact hauthority (by rw [← h.authority_eq, hvault_eq h.vault_eq])
    | revokeRole ctx principal hv hsigner =>
      subst hv hsigner
      obtain ⟨_, -, vault', _, h⟩ := process_accepted hprocess
      exact hauthority (by rw [← h.authority_eq, hvault_eq h.vault_eq])
    | setVaultAuthority ctx newAuthority hv hsigner =>
      subst hv hsigner
      obtain ⟨_, -, vault', h⟩ := process_accepted hprocess
      exact hauthority (by rw [← h.authority_eq, hvault_eq h.vault_eq])
    | pauseVault ctx hv hsigner =>
      subst hv hsigner
      obtain ⟨_, -, vault', h⟩ := process_accepted hprocess
      rcases h.caller_eq with heq | heq
      . exact hauthority (by rw [heq, hvault_eq h.vault_eq])
      . exact hguardian ⟨ctx, rfl⟩ (by rw [heq, hvault_eq h.vault_eq])
    | unpauseVault ctx hv hsigner =>
      subst hv hsigner
      obtain ⟨_, -, vault', h⟩ := process_accepted hprocess
      exact hauthority (by rw [← h.authority_eq, hvault_eq h.vault_eq])

theorem powerless_of_not_authority {s : State Pubkey} {v signer : Pubkey} {vault : Vault Pubkey}
    (hvault : s.vault v = some vault) (hauthority : vault.authority ≠ signer)
    (hguardian : vault.guardian ≠ signer) (hpower : ¬ s.HoldsPower v signer) :
    Powerless s v signer := by
  intro ix now hacts
  exact hacts.rejected hvault hauthority (fun _ => hguardian) hpower now

theorem Step.rotates {t : Transition (State Pubkey) (Action Pubkey)} {v old new : Pubkey}
    (hstep : Step t.pre t.action t.post) (hrotates : Rotates t v old new) :
    ∃ vault, t.pre.vault v = some vault ∧ vault.authority = old ∧ new ≠ old ∧
      t.post.vault v = some { vault with authority := new } ∧
      t.post.roleAssignment = t.pre.roleAssignment := by
  obtain ⟨⟨ctx, now, haction, rfl⟩, vault, hvault, rfl⟩ := hrotates
  rw [haction] at hstep
  obtain ⟨event, -, heffect⟩ := hstep.effect
  cases heffect with
  | setVaultAuthority h =>
    have hold := h.vault_eq
    rw [hvault, Option.some.injEq] at hold
    subst hold
    refine ⟨vault, hvault, rfl, h.newAuthority_ne.2.1, ?_, by rw [h.post_eq]⟩
    rw [h.post_eq]
    exact Function.update_self ..

theorem Transition.powerless {t : Transition (State Pubkey) (Action Pubkey)} {v old new : Pubkey}
    (hs : Reachable t.pre) (hstep : Step t.pre t.action t.post) (hrotates : Rotates t v old new)
    (hpower : ¬ t.pre.HoldsPower v old) : Powerless t.post v old := by
  obtain ⟨vault, hvault, rfl, hne, hpost, hroles⟩ := hstep.rotates hrotates
  apply powerless_of_not_authority hpost
  . exact hne
  . exact (hs.vault hvault).guardian_ne
  . simpa only [State.HoldsPower, State.HoldsRole, hroles] using hpower

def State.RoleInactive (s : State Pubkey) (v key : Pubkey) : Prop :=
  ∀ role, s.roleAssignment (address (.role v key)) = some role → role.active = false

theorem State.RoleInactive.not_holdsPower {s : State Pubkey} {v key : Pubkey}
    (h : s.RoleInactive v key) : ¬ s.HoldsPower v key := by
  intro hpower
  obtain ⟨permission, role, hrole, -, -, hhas⟩ := hpower.holdsRole
  simp [RoleAssignment.has, h role hrole] at hhas

section Authority

variable {s s' : State Pubkey} {a : Action Pubkey} {v : Pubkey}

theorem Step.vault_some (hstep : Step s a s') {vault : Vault Pubkey}
    (hvault : s.vault v = some vault) : ∃ vault', s'.vault v = some vault' := by
  cases hstep.vault_evolves hvault with
  | same hpost => exact ⟨_, hpost⟩
  | rotated _ _ hpost => exact ⟨_, hpost⟩
  | paused _ _ hpost => exact ⟨_, hpost⟩
  | unpaused _ _ hpost => exact ⟨_, hpost⟩
  | requested _ _ hpost => exact ⟨_, hpost⟩

theorem Step.vault_of_role (hstep : Step s a s')
    (hroles : ∀ {key role}, s.roleAssignment key = some role →
      ∃ vault, s.vault role.vault = some vault)
    {key : Pubkey} {role : RoleAssignment Pubkey} (hrole : s'.roleAssignment key = some role) :
    ∃ vault, s.vault role.vault = some vault := by
  cases hstep.roleChange with
  | same h =>
    rw [h] at hrole
    exact hroles hrole
  | grant h =>
    rw [h.post_eq] at hrole
    apply Function.forall_update_some hrole hroles
    exact ⟨_, h.vault_eq⟩
  | revoke h =>
    rw [h.post_eq] at hrole
    apply Function.forall_update_some hrole hroles
    have hvault := hroles h.role_eq
    exact hvault

theorem Reachable.vault_of_role (hs : Reachable s) {key : Pubkey} {role : RoleAssignment Pubkey}
    (hrole : s.roleAssignment key = some role) : ∃ vault, s.vault role.vault = some vault := by
  induction hs using Reachable.induction generalizing key role with
  | empty => simp [State.empty] at hrole
  | step s a s' hreach hstep ih =>
    obtain ⟨vault, hvault⟩ := hstep.vault_of_role ih hrole
    exact hstep.vault_some hvault

theorem Step.roleInactive (hstep : Step s a s') {key : Pubkey} (h : s.RoleInactive v key)
    (hgrant : ∀ vault, s.vault v = some vault → vault.authority = key) : s'.RoleInactive v key := by
  intro role hrole
  cases hstep.roleChange with
  | same heq =>
    rw [heq] at hrole
    exact h role hrole
  | @grant ctx principal _ _ _ _ vault haccepted =>
    rw [haccepted.post_eq, Function.update_some_eq_some] at hrole
    rcases hrole with ⟨hkey, -⟩ | ⟨-, hrole⟩
    . rw [haccepted.key_eq, address_inj, Seeds.role.injEq] at hkey
      obtain ⟨rfl, rfl⟩ := hkey
      exact absurd (hgrant vault haccepted.vault_eq).symm haccepted.principal_ne.2.1
    . exact h role hrole
  | revoke haccepted =>
    rw [haccepted.post_eq, Function.update_some_eq_some] at hrole
    rcases hrole with ⟨-, rfl⟩ | ⟨-, hrole⟩
    . rfl
    . exact h role hrole

theorem Step.authority_cases (hstep : Step s a s') {vault' : Vault Pubkey}
    (hvault' : s'.vault v = some vault') :
    (∃ vault, s.vault v = some vault ∧ vault.authority = vault'.authority) ∨ s.vault v = none ∨
      ∃ old, Rotates ⟨s, a, s'⟩ v old vault'.authority := by
  cases hvault : s.vault v with
  | none => exact .inr (.inl rfl)
  | some vault =>
    have hkept {new : Vault Pubkey} (hpost : s'.vault v = some new)
        (hauthority : new.authority = vault.authority) : vault.authority = vault'.authority := by
      rw [hvault', Option.some.injEq] at hpost
      rw [hpost, hauthority]
    cases hstep.vault_evolves hvault with
    | same hpost => exact .inl ⟨vault, rfl, hkept hpost rfl⟩
    | paused _ _ hpost => exact .inl ⟨vault, rfl, hkept hpost rfl⟩
    | unpaused _ _ hpost => exact .inl ⟨vault, rfl, hkept hpost rfl⟩
    | requested _ _ hpost => exact .inl ⟨vault, rfl, hkept hpost rfl⟩
    | rotated hkey _ hpost =>
      rw [hvault', Option.some.injEq] at hpost
      rw [hpost]
      exact .inr (.inr ⟨_, ⟨_, _, rfl, hkey⟩, vault, hvault, rfl⟩)

theorem History.authority_roleInactive {tr : List (Transition (State Pubkey) (Action Pubkey))}
    (h : History tr s)
    (hinstall : ∀ t ∈ tr, ∀ old new, Rotates t v old new → t.pre.RoleInactive v new)
    {vault : Vault Pubkey} (hvault : s.vault v = some vault) : s.RoleInactive v vault.authority := by
  -- A key with an active role is never installed, and a role is never granted to the authority.
  induction h generalizing vault with
  | nil => simp [State.empty] at hvault
  | @snoc tr s s' a run hstep ih =>
    have hs : Reachable s := ⟨tr, run⟩
    rcases hstep.authority_cases hvault with ⟨old, hold, heq⟩ | hnone | ⟨old, hrotates⟩
    . rw [← heq]
      apply hstep.roleInactive (ih (fun t ht => hinstall t (List.mem_append_left _ ht)) hold)
      intro vault' hvault'
      rw [hold, Option.some.injEq] at hvault'
      rw [hvault']
    . intro role hrole
      -- a role of a vault that did not exist before would need one
      obtain ⟨_, hvault'⟩ : ∃ vault, s.vault v = some vault := by
        have hcanonical := ((hs.step hstep).roleAssignment hrole).key_eq
        rw [address_inj, Seeds.role.injEq] at hcanonical
        rw [hcanonical.1]
        exact hstep.vault_of_role hs.vault_of_role hrole
      simp [hnone] at hvault'
    . have hinactive := hinstall _ (by simp) _ _ hrotates
      obtain ⟨_, -, -, -, -, hroles⟩ := hstep.rotates hrotates
      intro role hrole
      rw [hroles] at hrole
      exact hinactive role hrole

end Authority

theorem rotation_strips_authority {tr : List (Transition (State Pubkey) (Action Pubkey))}
    {s : State Pubkey} {t : Transition (State Pubkey) (Action Pubkey)} {v old new : Pubkey}
    (h : History tr s) (hmem : t ∈ tr) (hrotates : Rotates t v old new) :
    (¬ t.pre.HoldsPower v old → Powerless t.post v old) ∧
      ((∀ t' ∈ tr, ∀ old' new', Rotates t' v old' new' → t'.pre.RoleInactive v new') →
        Powerless t.post v old) := by
  obtain ⟨before, after, rfl⟩ := List.append_of_mem hmem
  obtain ⟨hbefore, hstep, -⟩ := Run.of_cons_append h
  have hs : Reachable t.pre := ⟨before, hbefore⟩
  refine ⟨Transition.powerless hs hstep hrotates, fun hinstall => ?_⟩
  apply Transition.powerless hs hstep hrotates
  obtain ⟨-, vault, hvault, rfl⟩ := hrotates
  apply State.RoleInactive.not_holdsPower
  apply History.authority_roleInactive hbefore _ hvault
  intro t' hmem' old' new' hrotates'
  exact hinstall t' (List.mem_append_left _ hmem') old' new' hrotates'

namespace Scenario

def successor : Key := .wallet 11

def rotate (old new : Key) : Instruction Key :=
  .setVaultAuthority ⟨old, .protocol, vault⟩ new

def promoted : List (Instruction Key × Int64) :=
  setup ++ [
    (.grantRole ⟨authority, .protocol, vault, .role vault recipient⟩ recipient permissionWithdraw, 4),
    (rotate authority recipient, 5)
  ]

def withdrawByRole : Instruction Key :=
  .withdraw ⟨recipient, .protocol, vault, mint, vaultAsset, vaultToken, recipientToken, tokenProgram,
    [.role vault recipient]⟩ 1

end Scenario

open Scenario in
theorem rotation_keeps_power :
    ¬ ∀ (tr : List (Transition (State Key) (Action Key))) (s : State Key)
      (t : Transition (State Key) (Action Key)) (v old new : Key), History tr s → t ∈ tr →
      Rotates t v old new → Powerless t.post v old := by
  intro h
  have hhistory := history_trace (promoted ++ [(rotate recipient successor, 6)]) (by decide +kernel)
  have hmem : next promoted (rotate recipient successor) 6
      ∈ trace (promoted ++ [(rotate recipient successor, 6)]) := by
    rw [trace_append]
    simp [State.replay, next]
  have hrotates : Rotates (next promoted (rotate recipient successor) 6) vault recipient
      successor := by
    refine ⟨⟨_, _, rfl, rfl⟩, ?_⟩
    have hauthority : ((start.final promoted).vault vault).any (·.authority = recipient) = true := by
      decide +kernel
    simp only [Option.any_eq_true, decide_eq_true_eq] at hauthority
    exact hauthority
  obtain ⟨error, herror⟩ := h _ _ _ _ _ _ hhistory hmem hrotates withdrawByRole 7
    (.withdraw _ _ rfl rfl)
  have hok : (process (next promoted (rotate recipient successor) 6).post 7 withdrawByRole).isOk
      = true := by
    decide +kernel
  simp [herror, Except.isOk, Except.toBool] at hok

open Scenario in
theorem rotation_strips_authority_first :
    Powerless (next setup (rotate authority successor) 4).post vault authority := by
  have hhistory := history_trace (setup ++ [(rotate authority successor, 4)]) (by decide +kernel)
  have hmem : next setup (rotate authority successor) 4
      ∈ trace (setup ++ [(rotate authority successor, 4)]) := by
    rw [trace_append]
    simp [State.replay, next]
  have hrotates : Rotates (next setup (rotate authority successor) 4) vault authority successor := by
    refine ⟨⟨_, _, rfl, rfl⟩, ?_⟩
    have hauthority : ((start.final setup).vault vault).any (·.authority = authority) = true := by
      decide +kernel
    simp only [Option.any_eq_true, decide_eq_true_eq] at hauthority
    exact hauthority
  have hnone : (start.final setup).roleAssignment (address (.role vault authority)) = none := by
    decide +kernel
  apply (rotation_strips_authority hhistory hmem hrotates).1
  apply State.RoleInactive.not_holdsPower
  intro role hrole
  rw [next, hnone] at hrole
  simp at hrole

end IronVault
