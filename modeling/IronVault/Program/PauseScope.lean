import IronVault.Program.Lemmas.Step
import IronVault.Program.Lemmas.TwoRuns
import IronVault.Program.Symbolic

/-!
This module contains what a pause can change. A flag of the protocol and the pause of a vault each
have a scope: within it they reject every instruction, outside of it nothing depends on them.
-/

namespace IronVault

variable {Pubkey : Type} [DecidableEq Pubkey] [Solana Pubkey]

open Except (Related)

/--
The two states differ in nothing but pause flags of the protocol and pauses of vaults.
-/
def State.SameButPauses (s t : State Pubkey) : Prop :=
  s.Similar (fun _ => True) (fun _ _ => True) (fun _ _ _ => True) t

def SameButPausesEnd (p q : State Pubkey × Option (IronVaultEvent Pubkey)) : Prop :=
  p.1.SameButPauses q.1 ∧ q.2 = p.2

/--
The pauses that the instruction is in the scope of are the same in both states.
-/
structure Instruction.PauseAgrees (ix : Instruction Pubkey) (s t : State Pubkey) : Prop where
  other {ctx : SetProtocolPause Pubkey} {flags : UInt32} : ix ≠ .setProtocolPause ctx flags
  flag {flag : UInt32} {key : Pubkey} {config config' : ProtocolConfig Pubkey} :
    ix.pauseScope = some flag → s.protocolConfig key = some config →
    t.protocolConfig key = some config' → config.isPaused flag = config'.isPaused flag
  vault {v : Pubkey} {vault vault' : Vault Pubkey} : ix.pauseVault? = some v →
    s.vault v = some vault → t.vault v = some vault' → vault.paused = vault'.paused

inductive Instruction.Paused (ix : Instruction Pubkey) (s : State Pubkey) : Prop where
  | flag {flag : UInt32} (hscope : ix.pauseScope = some flag)
      (hpaused : ∀ key config, s.protocolConfig key = some config → config.isPaused flag)
  | vault {v : Pubkey} {vault : Vault Pubkey} (houtflow : ix.pauseScope = some pauseVaultOutflow)
      (hscope : ix.pauseVault? = some v) (hvault : s.vault v = some vault)
      (hpaused : vault.paused = true)

theorem transfersWithin_univ : TransfersWithin (fun _ : Pubkey => True) := by
  intro token token' mint mint' x amount decimals htoken hmint _ _ _
  obtain rfl : token' = token := funext fun key => htoken key trivial
  obtain rfl : mint' = mint := funext fun key => hmint key trivial
  cases Solana.transferChecked token' mint' x amount decimals with
  | none => exact .inl ⟨rfl, rfl⟩
  | some moved => exact .inr ⟨moved, moved, rfl, rfl, fun _ _ => rfl⟩

section Outside

variable {s t : State Pubkey} {ix : Instruction Pubkey}

def Instruction.SameFlags (ix : Instruction Pubkey) (flags flags' : UInt32) : Prop :=
  ∀ flag, ix.pauseScope = some flag → (flags &&& flag ≠ 0 ↔ flags' &&& flag ≠ 0)

def Instruction.SamePaused (ix : Instruction Pubkey) (v : Pubkey) (b b' : Bool) : Prop :=
  ix.pauseVault? = some v → b = b'

omit [DecidableEq Pubkey] [Solana Pubkey] in
theorem State.Similar.sameButPauses {P : UInt32 → UInt32 → Prop} {Q : Pubkey → Bool → Bool → Prop}
    (h : s.Similar (fun _ => True) P Q t) : s.SameButPauses t := by
  refine { h with protocolConfig := ?_, vault := ?_ }
  . intro key hkey
    rcases h.protocolConfig hkey with hnone | ⟨config, flags, hs, ht, -⟩
    . exact .inl hnone
    . exact .inr ⟨config, flags, hs, ht, trivial⟩
  . intro key hkey
    rcases h.vault hkey with hnone | ⟨vault, paused, hs, ht, -⟩
    . exact .inl hnone
    . exact .inr ⟨vault, paused, hs, ht, trivial⟩

omit [DecidableEq Pubkey] [Solana Pubkey] in
theorem State.SameButPauses.similar (h : s.SameButPauses t) (hagrees : ix.PauseAgrees s t) :
    s.Similar (fun _ => True) ix.SameFlags ix.SamePaused t := by
  refine { h with protocolConfig := ?_, vault := ?_ }
  . intro key hkey
    rcases h.protocolConfig hkey with hnone | ⟨config, flags, hs, ht, -⟩
    . exact .inl hnone
    . refine .inr ⟨config, flags, hs, ht, ?_⟩
      intro flag hscope
      have hpaused := hagrees.flag hscope hs ht
      simp only [ProtocolConfig.isPaused, decide_eq_decide] at hpaused
      exact hpaused
  . intro key hkey
    rcases h.vault hkey with hnone | ⟨vault, paused, hs, ht, -⟩
    . exact .inl hnone
    . refine .inr ⟨vault, paused, hs, ht, ?_⟩
      intro hscope
      exact hagrees.vault hscope hs ht

theorem process_sameButPauses (h : s.SameButPauses t) (hagrees : ix.PauseAgrees s t) (now : Int64) :
    Related SameButPausesEnd (process s now ix) (process t now ix) := by
  have hblind : ix.Blind ix.SameFlags ix.SamePaused := by
    refine ⟨?_, ?_, ?_⟩
    . intro flag hscope flags flags' hsame
      exact hsame flag hscope
    . intro ctx flags heq
      exact absurd heq hagrees.other
    . intro v hscope b b' hsame
      exact hsame hscope
  have hrelated : Related (SameEnd (fun _ => True) ix.SameFlags ix.SamePaused)
      (process s now ix) (process t now ix) := by
    apply process_related (h.similar hagrees) transfersWithin_univ _ _ hblind
    . intro _ _
      trivial
    . intro flags flag _
      rfl
    . intro v b _
      rfl
  apply hrelated.mono
  intro p q hsame
  exact ⟨hsame.1.sameButPauses, hsame.2⟩

end Outside

section Within

variable {s s' : State Pubkey} {ix : Instruction Pubkey} {now : Int64}
  {event : Option (IronVaultEvent Pubkey)}

theorem process_active (h : process s now ix = .ok (s', event)) {flag : UInt32}
    (hscope : ix.pauseScope = some flag) : ∃ key, s.Active key flag := by
  have haccepted := process_accepted h
  cases ix with
  | createEscrow =>
    cases hscope
    obtain ⟨_, -, h⟩ := haccepted
    exact ⟨_, h.active⟩
  | releaseEscrow =>
    cases hscope
    obtain ⟨_, -, _, h⟩ := haccepted
    exact ⟨_, h.active⟩
  | createVault =>
    cases hscope
    obtain ⟨_, -, h⟩ := haccepted
    exact ⟨_, h.active⟩
  | setVaultAuthority =>
    cases hscope
    obtain ⟨_, -, _, h⟩ := haccepted
    exact ⟨_, h.active⟩
  | registerAsset =>
    cases hscope
    obtain ⟨_, -, _, h⟩ := haccepted
    exact ⟨_, h.active⟩
  | withdraw =>
    cases hscope
    obtain ⟨_, -, _, _, _, h⟩ := haccepted
    exact ⟨_, h.outflow.active⟩
  | grantRole =>
    cases hscope
    obtain ⟨_, -, _, h⟩ := haccepted
    exact ⟨_, h.active⟩
  | revokeRole =>
    cases hscope
    obtain ⟨_, -, _, _, h⟩ := haccepted
    exact ⟨_, h.active⟩
  | updateLimits =>
    cases hscope
    obtain ⟨_, -, _, _, _, h⟩ := haccepted
    exact ⟨_, h.active⟩
  | requestWithdrawal =>
    cases hscope
    obtain ⟨_, -, _, _, _, _, _, _, h⟩ := haccepted
    exact ⟨_, h.active⟩
  | executeWithdrawal =>
    cases hscope
    obtain ⟨_, -, _, _, _, _, h⟩ := haccepted
    exact ⟨_, h.outflow.active⟩
  | _ => simp [Instruction.pauseScope] at hscope

theorem process_unpaused (h : process s now ix = .ok (s', event)) {v : Pubkey}
    (houtflow : ix.pauseScope = some pauseVaultOutflow) (hscope : ix.pauseVault? = some v) :
    ∃ vault, s.vault v = some vault ∧ vault.paused = false := by
  have haccepted := process_accepted h
  cases ix with
  | withdraw =>
    cases hscope
    obtain ⟨_, -, _, _, _, h⟩ := haccepted
    exact ⟨_, h.outflow.vault_eq, h.outflow.paused_eq⟩
  | requestWithdrawal =>
    cases hscope
    obtain ⟨_, -, _, _, _, _, _, _, h⟩ := haccepted
    exact ⟨_, h.vault_eq, h.paused_eq⟩
  | executeWithdrawal =>
    cases hscope
    obtain ⟨_, -, _, _, _, _, h⟩ := haccepted
    exact ⟨_, h.outflow.vault_eq, h.outflow.paused_eq⟩
  | pauseVault => simp [Instruction.pauseScope] at houtflow
  | unpauseVault => simp [Instruction.pauseScope] at houtflow
  | _ => simp [Instruction.pauseVault?] at hscope

theorem Instruction.Paused.not_ok (hpaused : ix.Paused s) :
    process s now ix ≠ .ok (s', event) := by
  intro h
  cases hpaused with
  | flag hscope hpaused =>
    obtain ⟨key, config, hconfig, hactive⟩ := process_active h hscope
    simp [hpaused key config hconfig] at hactive
  | vault houtflow hscope hvault hpaused =>
    obtain ⟨vault, hvault', hactive⟩ := process_unpaused h houtflow hscope
    rw [hvault, Option.some.injEq] at hvault'
    rw [← hvault', hpaused] at hactive
    exact Bool.noConfusion hactive

end Within

/--
Where the pauses of its scope agree, an instruction succeeds or fails with the same error in both
states, emits the same event and changes the same things. Under a pause of its scope it fails.
-/
theorem pause_scopes_exact {s t : State Pubkey} (h : s.SameButPauses t) (ix : Instruction Pubkey)
    (now : Int64) :
    (ix.PauseAgrees s t → Related SameButPausesEnd (process s now ix) (process t now ix)) ∧
      (ix.Paused s → (process s now ix).isOk = false) := by
  constructor
  . intro hagrees
    exact process_sameButPauses h hagrees now
  . intro hpaused
    cases hprocess : process s now ix with
    | error e => rfl
    | ok result => exact absurd hprocess hpaused.not_ok

def State.withPauseFlags (s : State Pubkey) (flags : UInt32) : State Pubkey :=
  { s with protocolConfig := fun key =>
      (s.protocolConfig key).map fun config => { config with pauseFlags := flags } }

omit [DecidableEq Pubkey] [Solana Pubkey] in
theorem State.sameButPauses_withPauseFlags (s : State Pubkey) (flags : UInt32) :
    (s.withPauseFlags flags).SameButPauses s := by
  refine ⟨?_, ?_, ?_, ?_, ?_, ?_, ?_, ?_⟩
  . intro key _
    cases h : s.protocolConfig key with
    | none => exact .inl ⟨by simp [withPauseFlags, h], rfl⟩
    | some config =>
      exact .inr ⟨{ config with pauseFlags := flags }, config.pauseFlags,
        by simp [withPauseFlags, h], rfl, trivial⟩
  . intro key _
    cases h : s.vault key with
    | none => exact .inl ⟨h, rfl⟩
    | some vault => exact .inr ⟨vault, vault.paused, h, rfl, trivial⟩
  all_goals
    intro key _
    rfl

open Scenario in
theorem pause_scopes_exact_outflow :
    Related SameButPausesEnd
        (process ((start.final setup).withPauseFlags pauseVaultOutflow) 4
          (.deposit ⟨authority, vault, mint, vaultAsset, authorityToken, vaultToken, tokenProgram⟩ 7))
        (process (start.final setup) 4
          (.deposit ⟨authority, vault, mint, vaultAsset, authorityToken, vaultToken, tokenProgram⟩ 7)) ∧
      (process ((start.final setup).withPauseFlags pauseVaultOutflow) 4 (withdraw 5)).isOk = false := by
  have hsame := (start.final setup).sameButPauses_withPauseFlags pauseVaultOutflow
  constructor
  . apply (pause_scopes_exact hsame _ 4).1
    refine ⟨?_, ?_, ?_⟩
    . simp
    . simp [Instruction.pauseScope]
    . simp [Instruction.pauseVault?]
  . apply (pause_scopes_exact hsame _ 4).2
    apply Instruction.Paused.flag rfl
    intro key config hconfig
    simp only [State.withPauseFlags, Option.map_eq_some_iff] at hconfig
    obtain ⟨_, -, rfl⟩ := hconfig
    change decide (pauseVaultOutflow &&& pauseVaultOutflow ≠ 0) = true
    decide

end IronVault
