import IronVault.Program.Authorization
import IronVault.Program.Lemmas.Authority

/-!
This module contains that a pause holds until the right key lifts it. Only the admin clears a flag of
the protocol and only the authority unpauses a vault, and nothing leaves a vault under either pause.
-/

namespace IronVault

variable {Pubkey : Type} [DecidableEq Pubkey] [Solana Pubkey]

def AdminSetsPause (t : Transition (State Pubkey) (Action Pubkey)) : Prop :=
  ∃ ctx flags now config, t.action = .instruction (.setProtocolPause ctx flags) now ∧
    t.pre.protocolConfig (address .protocol) = some config ∧ ctx.caller = config.admin

def UnpausesVault (v : Pubkey) (t : Transition (State Pubkey) (Action Pubkey)) : Prop :=
  ∃ ctx now, t.action = .instruction (.unpauseVault ctx) now ∧ ctx.vault = v

structure FlagsHeld (old flags : UInt32) : Prop where
  includes : flags &&& old = old
  known : flags &&& ~~~knownPauseFlags = 0

structure NoOutflow (v : Pubkey) (t : Transition (State Pubkey) (Action Pubkey)) : Prop where
  balance (m : Pubkey) :
    t.pre.balance (address (.vaultToken v m)) ≤ t.post.balance (address (.vaultToken v m))
  nextWithdrawalId {before after : Vault Pubkey} :
    t.pre.vault v = some before → t.post.vault v = some after →
      after.nextWithdrawalId = before.nextWithdrawalId

section

variable {s s' : State Pubkey} {a : Action Pubkey} {v : Pubkey}
  {tr : List (Transition (State Pubkey) (Action Pubkey))}

theorem Step.noOutflow (hs : Reachable s) (hstep : Step s a s') (hclosed : ¬ s.OutflowOpen v) :
    NoOutflow v ⟨s, a, s'⟩ := by
  constructor
  . intro m
    by_contra hlt
    rw [Nat.not_le] at hlt
    obtain ⟨ix, now, x, rfl, htransfer, hsource, hamount, hout⟩ :=
      (hs.guarded_vaultToken v m).outflow_of_lt hs hstep hlt
    cases hout with
    | release h => simp [h.settled.custody_eq] at hsource
    | refund h => simp [h.settled.custody_eq] at hsource
    | withdraw h =>
      simp only [h.outflow.custody_eq, address_inj, Seeds.vaultToken.injEq] at hsource
      rw [← hsource.1] at hclosed
      exact hclosed (h.outflow.outflowOpen hs)
    | execute h =>
      simp only [h.outflow.custody_eq, address_inj, Seeds.vaultToken.injEq] at hsource
      rw [← hsource.1] at hclosed
      exact hclosed (h.outflow.outflowOpen hs)
  . intro before after hbefore hafter
    obtain ⟨vault, hvault, heq⟩ : ∃ vault, s'.vault v = some vault ∧
        vault.nextWithdrawalId = before.nextWithdrawalId := by
      cases hstep.vault_evolves hbefore with
      | same hpost => exact ⟨_, hpost, rfl⟩
      | rotated _ _ hpost => exact ⟨_, hpost, rfl⟩
      | paused _ _ hpost => exact ⟨_, hpost, rfl⟩
      | unpaused _ _ hpost => exact ⟨_, hpost, rfl⟩
      | requested hkey h _ =>
        -- a request needs both pauses to be lifted as well
        obtain ⟨config, hconfig, hactive⟩ := h.active
        rw [(hs.protocolConfig hconfig).key_eq] at hconfig
        exact absurd ⟨⟨before, hbefore, h.paused_eq⟩, config, hconfig, hactive⟩ hclosed
    dsimp only at hafter
    rw [hafter, Option.some.injEq] at hvault
    rw [hvault, heq]

omit [DecidableEq Pubkey] [Solana Pubkey] in
theorem ProtocolConfig.isPaused_of_includes {config config' : ProtocolConfig Pubkey} {flag : UInt32}
    (h : config'.pauseFlags &&& config.pauseFlags = config.pauseFlags)
    (hpaused : config.isPaused flag = true) : config'.isPaused flag = true := by
  simp only [ProtocolConfig.isPaused, decide_eq_true_eq] at hpaused ⊢
  intro hzero
  apply hpaused
  rw [← h, UInt32.and_comm config'.pauseFlags, UInt32.and_assoc, hzero, UInt32.and_zero]

theorem Reachable.flags_known (hs : Reachable s) {key : Pubkey} {config : ProtocolConfig Pubkey}
    (hconfig : s.protocolConfig key = some config) :
    config.pauseFlags &&& ~~~knownPauseFlags = 0 := by
  induction hs using Reachable.induction generalizing key config with
  | empty => simp [State.empty] at hconfig
  | step s a s' hreach hstep ih =>
    cases hstep.configChange with
    | same h =>
      rw [h] at hconfig
      exact ih hconfig
    | initialized h =>
      rw [h.post_eq] at hconfig
      apply Function.forall_update_some hconfig ih
      simp
    | setPause h =>
      rw [h.post_eq] at hconfig
      apply Function.forall_update_some hconfig ih
      exact h.known

theorem Step.flags_kept (hs : Reachable s) (hstep : Step s a s') {config : ProtocolConfig Pubkey}
    (hconfig : s.protocolConfig (address .protocol) = some config)
    (hadmin : ¬ AdminSetsPause ⟨s, a, s'⟩) :
    ∃ config', s'.protocolConfig (address .protocol) = some config' ∧
      config'.pauseFlags &&& config.pauseFlags = config.pauseFlags := by
  cases hstep.configChange with
  | same h => exact ⟨config, by rw [h, hconfig], UInt32.and_self⟩
  | initialized h =>
    have hfresh := (State.vacant_of_unallocated h.fresh).protocolConfig
    rw [h.key_eq, hconfig] at hfresh
    simp at hfresh
  | @setPause ctx flags now _ _ old h =>
    have hkey := (hs.protocolConfig h.config_eq).key_eq
    have hold := h.config_eq
    rw [hkey, hconfig, Option.some.injEq] at hold
    subst hold
    refine ⟨{ config with pauseFlags := flags }, ?_, ?_⟩
    . rw [h.post_eq, ← hkey]
      exact Function.update_self ..
    . rcases h.caller_eq with hcaller | hcaller
      . exact absurd ⟨ctx, flags, now, config, rfl, hconfig, hcaller⟩ hadmin
      . exact h.add_only hcaller

theorem Run.flags_kept (hs : Reachable s) (run : Run Step s tr s') {config : ProtocolConfig Pubkey}
    (hconfig : s.protocolConfig (address .protocol) = some config)
    (hadmin : ∀ t ∈ tr, ¬ AdminSetsPause t) :
    ∃ config', s'.protocolConfig (address .protocol) = some config' ∧
      config'.pauseFlags &&& config.pauseFlags = config.pauseFlags := by
  induction run with
  | nil => exact ⟨config, hconfig, UInt32.and_self⟩
  | @snoc tr t u a run hstep ih =>
    obtain ⟨config', hconfig', hincl⟩ := ih fun x hx => hadmin x (List.mem_append_left _ hx)
    obtain ⟨config'', hconfig'', hincl'⟩ :=
      hstep.flags_kept (hs.run run) hconfig' (hadmin _ (by simp))
    refine ⟨config'', hconfig'', ?_⟩
    rw [← hincl, ← UInt32.and_assoc, hincl']

theorem Run.vault_paused (run : Run Step s tr s') {vault : Vault Pubkey}
    (hvault : s.vault v = some vault) (hpaused : vault.paused = true)
    (hunpause : ∀ t ∈ tr, ¬ UnpausesVault v t) :
    ∃ vault', s'.vault v = some vault' ∧ vault'.paused = true := by
  apply run.invariant (P := fun t => ∃ vault, t.vault v = some vault ∧ vault.paused = true)
  . exact ⟨vault, hvault, hpaused⟩
  . rintro t a u hmem hstep ⟨vault, hvault, hpaused⟩
    cases hstep.vault_evolves hvault with
    | same hpost => exact ⟨_, hpost, hpaused⟩
    | rotated _ _ hpost => exact ⟨_, hpost, hpaused⟩
    | paused _ _ hpost => exact ⟨_, hpost, rfl⟩
    | unpaused hkey _ _ => exact (hunpause _ hmem ⟨_, _, rfl, hkey⟩).elim
    | requested _ _ hpost => exact ⟨_, hpost, hpaused⟩

theorem Run.closed_of_flag (hs : Reachable s) (run : Run Step s tr s')
    {config : ProtocolConfig Pubkey} (hconfig : s.protocolConfig (address .protocol) = some config)
    (hpaused : config.isPaused pauseVaultOutflow = true) (hadmin : ∀ t ∈ tr, ¬ AdminSetsPause t) :
    ¬ s'.OutflowOpen v := by
  rintro ⟨-, config', hconfig', hactive⟩
  obtain ⟨held, hheld, hincludes⟩ := Run.flags_kept hs run hconfig hadmin
  rw [hconfig', Option.some.injEq] at hheld
  rw [hheld, ProtocolConfig.isPaused_of_includes hincludes hpaused] at hactive
  simp at hactive

theorem Run.closed_of_paused (run : Run Step s tr s') {vault : Vault Pubkey}
    (hvault : s.vault v = some vault) (hpaused : vault.paused = true)
    (hunpause : ∀ t ∈ tr, ¬ UnpausesVault v t) : ¬ s'.OutflowOpen v := by
  rintro ⟨⟨vault', hvault', hopen⟩, -⟩
  obtain ⟨held, hheld, hpaused'⟩ := Run.vault_paused run hvault hpaused hunpause
  rw [hvault', Option.some.injEq] at hheld
  rw [hheld, hpaused'] at hopen
  simp at hopen

theorem Run.noOutflow (hs : Reachable s) (run : Run Step s tr s')
    (hclosed : ∀ before after s', tr = before ++ after → Run Step s before s' → ¬ s'.OutflowOpen v) :
    ∀ t ∈ tr, NoOutflow v t := by
  intro t ht
  obtain ⟨before, after, rfl⟩ := List.append_of_mem ht
  obtain ⟨hbefore, hstep, -⟩ := Run.of_cons_append run
  exact hstep.noOutflow (hs.run hbefore) (hclosed before (t :: after) _ rfl hbefore)

end

theorem pauses_hold {s s' : State Pubkey} {tr : List (Transition (State Pubkey) (Action Pubkey))}
    (hs : Reachable s) (run : Run Step s tr s') :
    (∀ config, s.protocolConfig (address .protocol) = some config →
      (∀ t ∈ tr, ¬ AdminSetsPause t) →
        ∃ config', s'.protocolConfig (address .protocol) = some config' ∧
          FlagsHeld config.pauseFlags config'.pauseFlags) ∧
    (∀ v, ((∃ config, s.protocolConfig (address .protocol) = some config ∧
          config.isPaused pauseVaultOutflow = true) ∧ ∀ t ∈ tr, ¬ AdminSetsPause t) ∨
        ((∃ vault, s.vault v = some vault ∧ vault.paused = true) ∧
          ∀ t ∈ tr, ¬ UnpausesVault v t) →
      ∀ t ∈ tr, NoOutflow v t) := by
  constructor
  . intro config hconfig hadmin
    obtain ⟨config', hconfig', hincludes⟩ := Run.flags_kept hs run hconfig hadmin
    exact ⟨config', hconfig', hincludes, (hs.run run).flags_known hconfig'⟩
  . rintro v (⟨⟨config, hconfig, hpaused⟩, hadmin⟩ | ⟨⟨vault, hvault, hpaused⟩, hunpause⟩)
    . apply Run.noOutflow hs run
      rintro before after t rfl hbefore
      apply Run.closed_of_flag hs hbefore hconfig hpaused
      intro x hx
      exact hadmin x (List.mem_append_left _ hx)
    . apply Run.noOutflow hs run
      rintro before after t rfl hbefore
      apply Run.closed_of_paused hbefore hvault hpaused
      intro x hx
      exact hunpause x (List.mem_append_left _ hx)

namespace Scenario

def outflowPaused : List (Instruction Key × Int64) :=
  setup ++ [(.setProtocolPause ⟨admin, .protocol⟩ pauseVaultOutflow, 4)]

def guarded : List (Instruction Key × Int64) := [
  (.setProtocolPause ⟨protocolGuardian, .protocol⟩ (pauseVaultOutflow ||| pauseEscrowCreate), 5),
  (.deposit ⟨authority, vault, mint, vaultAsset, authorityToken, vaultToken, tokenProgram⟩ 10, 6)
]

theorem not_adminSetsPause_guarded :
    ∀ t ∈ (start.final outflowPaused).replay guarded, ¬ AdminSetsPause t := by
  rintro t ht ⟨ctx, flags, now, config, haction, hconfig, hcaller⟩
  have hadmin : ((start.final outflowPaused).replay guarded).all fun t =>
      (t.pre.protocolConfig .protocol).all (·.admin = admin) := by decide +kernel
  have hconfig' : config.admin = admin := by
    have hall := List.all_eq_true.mp hadmin t ht
    rw [show t.pre.protocolConfig .protocol = some config from hconfig] at hall
    simpa using hall
  obtain ⟨x, hx, heq⟩ := State.action_of_mem_replay ht
  rw [haction, Action.instruction.injEq] at heq
  simp only [guarded, List.mem_cons, List.not_mem_nil, or_false] at hx
  rcases hx with rfl | rfl
  . simp only [Instruction.setProtocolPause.injEq] at heq
    rw [heq.1.1, hconfig'] at hcaller
    exact absurd hcaller (by decide)
  . simp at heq

end Scenario

open Scenario in
theorem pauses_hold_guarded :
    ((start.final outflowPaused).replay guarded).length = 2 ∧
      ∀ t ∈ (start.final outflowPaused).replay guarded, NoOutflow vault t := by
  have hs : Reachable (start.final outflowPaused) :=
    ⟨_, history_trace outflowPaused (by decide +kernel)⟩
  have hpaused : ((start.final outflowPaused).protocolConfig .protocol).any
      (·.isPaused pauseVaultOutflow) = true := by decide +kernel
  refine ⟨by decide +kernel, ?_⟩
  apply (pauses_hold hs (State.run_replay (by decide +kernel))).2
  exact .inl ⟨(Option.any_eq_true _ _).mp hpaused, not_adminSetsPause_guarded⟩

end IronVault
