import IronVault.Util.Window
import IronVault.Program.Lemmas.Window
import IronVault.Program.Symbolic

/-!
This module contains the rolling-window accounting along a run. The stored counter is the sum of the
outflows since the window was set, nothing resets it before the window is over, and therefore the
outflows of every interval are bounded.
-/

namespace IronVault

variable {Pubkey : Type} [DecidableEq Pubkey] [Solana Pubkey]

def Action.clock : Action Pubkey → Option Int64
  | .instruction _ now => some now
  | .thirdParty => none

def assetOutflow (key : Pubkey) (t : Transition (State Pubkey) (Action Pubkey)) : Nat :=
  match t.action with
  | .instruction ix _ =>
    match ix.charge t.pre with
    | some (k, amount) => if k = key then amount.toNat else 0
    | none => 0
  | .thirdParty => 0

def totalOutflow (key : Pubkey) (tr : List (Transition (State Pubkey) (Action Pubkey))) : Nat :=
  (tr.map (assetOutflow key)).sum

/--
The transition sets `window_started_at` of the asset at `key`: it is the first configuration, a
change of the duration, or an outflow after the end of the window.
-/
def SetsWindow (key : Pubkey) (t : Transition (State Pubkey) (Action Pubkey)) : Prop :=
  ∃ asset ix now, t.pre.vaultAsset key = some asset ∧ t.action = .instruction ix now ∧
    ((∃ ctx policy, ix = .updateLimits ctx policy ∧ ctx.vaultAsset = key ∧
        (asset.windowSeconds = 0 ∨ asset.windowSeconds ≠ policy.windowSeconds)) ∨
      (∃ amount, ix.charge t.pre = some (key, amount) ∧ asset.windowSeconds ≠ 0 ∧
        asset.windowStartedAt.toInt + asset.windowSeconds.toInt ≤ now.toInt))

structure WindowAccounting (tr : List (Transition (State Pubkey) (Action Pubkey))) (s : State Pubkey)
    (key : Pubkey) : Prop where
  spent_eq {asset : VaultAsset Pubkey} :
    s.vaultAsset key = some asset → 0 < asset.windowSeconds →
      ∃ before t after, tr = before ++ t :: after ∧ SetsWindow key t ∧
        (∀ t' ∈ after, ¬ SetsWindow key t') ∧ t.action.clock = some asset.windowStartedAt ∧
        asset.windowSpent.toNat = totalOutflow key (t :: after)
  spent_le {t : Transition (State Pubkey) (Action Pubkey)} {ix : Instruction Pubkey} {now : Int64}
    {amount : UInt64} {asset : VaultAsset Pubkey} :
    t ∈ tr → t.action = .instruction ix now → ix.charge t.pre = some (key, amount) →
    t.post.vaultAsset key = some asset → 0 < asset.windowSeconds →
      asset.windowSpent ≤ asset.windowLimit
  no_early_reset {t : Transition (State Pubkey) (Action Pubkey)} {asset : VaultAsset Pubkey} :
    t ∈ tr → t.pre.vaultAsset key = some asset → 0 < asset.windowSeconds →
    (∀ now ∈ t.action.clock,
      now.toInt < asset.windowStartedAt.toInt + asset.windowSeconds.toInt) →
      ∃ asset', t.post.vaultAsset key = some asset' ∧
        asset'.windowStartedAt = asset.windowStartedAt ∧
        asset'.windowSeconds = asset.windowSeconds ∧ asset.windowSpent ≤ asset'.windowSpent

section

variable {s s' : State Pubkey} {a : Action Pubkey} {key : Pubkey} {asset : VaultAsset Pubkey}
  {tr : List (Transition (State Pubkey) (Action Pubkey))}

omit [Solana Pubkey] in
theorem assetOutflow_of_charge {ix : Instruction Pubkey} {now : Int64} {amount : UInt64}
    (h : ix.charge s = some (key, amount)) :
    assetOutflow key ⟨s, .instruction ix now, s'⟩ = amount.toNat := by
  simp [assetOutflow, h]

omit [Solana Pubkey] in
theorem Idle.assetOutflow_eq (h : Idle s key a) : assetOutflow key ⟨s, a, s'⟩ = 0 := by
  unfold assetOutflow
  split
  . next ix now haction =>
    split
    . next k amount hcharge =>
      rw [if_neg]
      rintro rfl
      exact h.no_charge haction hcharge
    . rfl
  . rfl

omit [DecidableEq Pubkey] [Solana Pubkey] in
theorem Idle.not_setsWindow (h : Idle s key a) : ¬ SetsWindow key ⟨s, a, s'⟩ := by
  rintro ⟨_, ix, now, -, haction, ⟨ctx, policy, rfl, hkey, -⟩ | ⟨amount, hcharge, -⟩⟩
  . exact h.no_update haction hkey
  . exact h.no_charge haction hcharge

omit [Solana Pubkey] in
theorem totalOutflow_snoc (x : Transition (State Pubkey) (Action Pubkey)) :
    totalOutflow key (tr ++ [x]) = totalOutflow key tr + assetOutflow key x := by
  simp [totalOutflow]

inductive WindowStep (key : Pubkey) (t : Transition (State Pubkey) (Action Pubkey))
    (asset asset' : VaultAsset Pubkey) : Prop where
  | sets (hsets : SetsWindow key t) (hclock : t.action.clock = some asset'.windowStartedAt)
      (hspent : asset'.windowSpent.toNat = assetOutflow key t)
      (hend : asset.windowSeconds ≠ 0 → asset.windowStartedAt.toInt + asset.windowSeconds.toInt
        ≤ asset'.windowStartedAt.toInt)
      (hlimit : assetOutflow key t ≤ asset'.windowLimit.toNat)
  | keeps (hkeeps : ¬ SetsWindow key t) (hstart : asset'.windowStartedAt = asset.windowStartedAt)
      (hseconds : asset'.windowSeconds = asset.windowSeconds)
      (hspent : asset.windowSeconds ≠ 0 →
        asset'.windowSpent.toNat = asset.windowSpent.toNat + assetOutflow key t)
      (hlimit : asset.windowSeconds ≠ 0 →
        assetOutflow key t = 0 ∨ asset'.windowSpent.toNat ≤ asset'.windowLimit.toNat)

theorem UpdateLimits.Accepted.windowStep {ctx : UpdateLimits Pubkey} {policy : Policy} {now : Int64}
    {event : IronVaultEvent Pubkey} {vault : Vault Pubkey} {window : Int64 × UInt64}
    (hasset : s.vaultAsset key = some asset) (hkey : ctx.vaultAsset = key)
    (h : ctx.Accepted s policy now s' event vault asset window) :
    WindowStep key ⟨s, .instruction (.updateLimits ctx policy) now, s'⟩ asset
      (asset.withPolicy policy window) := by
  have houtflow :
      assetOutflow key ⟨s, .instruction (.updateLimits ctx policy) now, s'⟩ = 0 := by
    rfl
  have hsets (hdue : asset.windowSeconds = 0 ∨ asset.windowSeconds ≠ policy.windowSeconds) :
      SetsWindow key ⟨s, .instruction (.updateLimits ctx policy) now, s'⟩ :=
    ⟨asset, _, now, hasset, rfl, .inl ⟨ctx, policy, rfl, hkey, hdue⟩⟩
  rcases UpdateLimits.nextWindow_ok h.window_ok with
    ⟨hzero, rfl⟩ | ⟨hpos, hne, hend, rfl⟩ | ⟨hpos, heq, rfl⟩
  . apply WindowStep.sets (hsets (.inl hzero)) rfl
    . rw [houtflow]
      rfl
    . exact fun hpos => absurd hzero hpos
    . rw [houtflow]
      exact Nat.zero_le _
  . apply WindowStep.sets (hsets (.inr hne)) rfl
    . rw [houtflow]
      rfl
    . exact fun _ => hend
    . rw [houtflow]
      exact Nat.zero_le _
  . apply WindowStep.keeps
    . rintro ⟨old, ix, now', hold, haction, ⟨ctx', policy', rfl, -, hdue⟩ | ⟨amount, hcharge, -⟩⟩
      . cases haction
        dsimp only at hold
        rw [hasset, Option.some.injEq] at hold
        subst hold
        rcases hdue with hdue | hdue
        . exact hpos hdue
        . exact hdue heq
      . cases haction
        simp [Instruction.charge] at hcharge
    . rfl
    . exact heq.symm
    . intro _
      rw [houtflow]
      rfl
    . exact fun _ => .inl houtflow

omit [Solana Pubkey] in
theorem windowStep_of_charge {ix : Instruction Pubkey} {now : Int64} {amount : UInt64}
    {next : Int64 × UInt64} (hasset : s.vaultAsset key = some asset)
    (hcharge : ix.charge s = some (key, amount))
    (hwindow : nextWindowState asset amount now = .ok next) :
    WindowStep key ⟨s, .instruction ix now, s'⟩ asset
      { asset with windowStartedAt := next.1, windowSpent := next.2 } := by
  have houtflow : assetOutflow key ⟨s, .instruction ix now, s'⟩ = amount.toNat :=
    assetOutflow_of_charge hcharge
  have hkeeps (hlive : asset.windowSeconds = 0 ∨
      now.toInt < asset.windowStartedAt.toInt + asset.windowSeconds.toInt) :
      ¬ SetsWindow key ⟨s, .instruction ix now, s'⟩ := by
    rintro ⟨old, ix', now', hold, haction, ⟨ctx, policy, rfl, -, -⟩ | ⟨amount', -, hne, hend⟩⟩
    . cases haction
      simp [Instruction.charge] at hcharge
    . cases haction
      dsimp only at hold
      rw [hasset, Option.some.injEq] at hold
      subst hold
      rcases hlive with hlive | hlive
      . exact hne hlive
      . omega
  rcases nextWindowState_ok hwindow with ⟨hzero, rfl⟩ | ⟨hpos, hlimit, hnext⟩
  . apply WindowStep.keeps (hkeeps (.inl hzero)) rfl rfl
    . exact fun hne => absurd hzero hne
    . exact fun hne => absurd hzero hne
  . have hne : asset.windowSeconds ≠ 0 := by
      intro hzero
      simp [hzero] at hpos
    have hle := UInt64.le_iff_toNat_le.mp hlimit
    rcases hnext with ⟨hend, rfl⟩ | ⟨hlive, hstart, hspent⟩
    . apply WindowStep.sets
      . exact ⟨asset, ix, now, hasset, rfl, .inr ⟨amount, hcharge, hne, hend⟩⟩
      . rfl
      . exact houtflow.symm
      . exact fun _ => hend
      . rw [houtflow]
        exact hle
    . apply WindowStep.keeps (hkeeps (.inr hlive))
      . exact hstart
      . rfl
      . intro _
        rw [houtflow]
        exact hspent
      . exact fun _ => .inr hle

theorem Step.windowStep (hstep : Step s a s') (hasset : s.vaultAsset key = some asset) :
    ∃ asset', s'.vaultAsset key = some asset' ∧ WindowStep key ⟨s, a, s'⟩ asset asset' := by
  cases hstep.asset_evolves hasset with
  | idle hidle hpost =>
    refine ⟨asset, hpost, .keeps hidle.not_setsWindow rfl rfl ?_ ?_⟩
    . intro _
      rw [hidle.assetOutflow_eq, Nat.add_zero]
    . exact fun _ => .inl hidle.assetOutflow_eq
  | updated hkey h hpost => exact ⟨_, hpost, h.windowStep hasset hkey⟩
  | charged hcharge hwindow hpost => exact ⟨_, hpost, windowStep_of_charge hasset hcharge hwindow⟩

theorem History.spent_eq (h : History tr s) (hasset : s.vaultAsset key = some asset)
    (hseconds : asset.windowSeconds ≠ 0) :
    ∃ before t after, tr = before ++ t :: after ∧ SetsWindow key t ∧
      (∀ t' ∈ after, ¬ SetsWindow key t') ∧ t.action.clock = some asset.windowStartedAt ∧
      asset.windowSpent.toNat = totalOutflow key (t :: after) := by
  induction h generalizing asset with
  | nil => simp [State.empty] at hasset
  | @snoc tr s s' a run hstep ih =>
    cases hold : s.vaultAsset key with
    | none => exact absurd (hstep.unconfigured_of_none hold hasset).windowSeconds hseconds
    | some old =>
      obtain ⟨asset', hasset', hwindow⟩ := hstep.windowStep hold
      rw [hasset, Option.some.injEq] at hasset'
      subst hasset'
      cases hwindow with
      | sets hsets hclock hspent _ _ =>
        refine ⟨tr, _, [], rfl, hsets, by simp, hclock, ?_⟩
        rw [hspent]
        simp [totalOutflow]
      | keeps hkeeps hstart hkept hspent _ =>
        have hne : old.windowSeconds ≠ 0 := hkept ▸ hseconds
        obtain ⟨before, t, after, rfl, hsets, hafter, hclock, hsum⟩ := ih hold hne
        refine ⟨before, t, after ++ [⟨s, a, s'⟩], by simp, hsets, ?_, ?_, ?_⟩
        . intro t' hmem
          rw [List.mem_append, List.mem_singleton] at hmem
          rcases hmem with hmem | rfl
          . exact hafter t' hmem
          . exact hkeeps
        . rw [hclock, hstart]
        . rw [hspent hne, hsum, ← List.cons_append, totalOutflow_snoc]

theorem window_accounting (h : History tr s) (key : Pubkey) : WindowAccounting tr s key where
  spent_eq := by
    intro asset hasset hseconds
    apply h.spent_eq hasset
    intro hzero
    simp [hzero] at hseconds
  spent_le := by
    intro t ix now amount asset hmem haction hcharge hasset hseconds
    obtain ⟨before, hbefore, hstep⟩ := Run.of_mem h hmem
    rw [haction] at hstep
    cases hold : t.pre.vaultAsset key with
    | none =>
      have hzero := (hstep.unconfigured_of_none hold hasset).windowSeconds
      simp [hzero] at hseconds
    | some old =>
      cases hstep.asset_evolves hold with
      | idle hidle _ => exact absurd hcharge (hidle.no_charge rfl)
      | updated _ _ _ => simp [Instruction.charge] at hcharge
      | charged _ hwindow hpost =>
        rw [hasset, Option.some.injEq] at hpost
        subst hpost
        rcases nextWindowState_ok hwindow with ⟨hzero, -⟩ | ⟨-, hlimit, -⟩
        . simp [hzero] at hseconds
        . exact hlimit
  no_early_reset := by
    intro t asset hmem hasset hseconds hlive
    obtain ⟨before, hbefore, hstep⟩ := Run.of_mem h hmem
    have hne : asset.windowSeconds ≠ 0 := by
      intro hzero
      simp [hzero] at hseconds
    obtain ⟨asset', hasset', hwindow⟩ := hstep.windowStep hasset
    refine ⟨asset', hasset', ?_⟩
    cases hwindow with
    | sets _ hclock _ hend _ =>
      have hlt := hlive _ hclock
      have hle := hend hne
      omega
    | keeps _ hstart hkept hspent _ =>
      refine ⟨hstart, hkept, UInt64.le_iff_toNat_le.mpr ?_⟩
      rw [hspent hne]
      exact Nat.le_add_right ..

end

open Scenario in
theorem window_accounting_execution :
    WindowAccounting (trace (requested ++ [(executeWithdrawal, 16)]))
      (start.final (requested ++ [(executeWithdrawal, 16)])) (address (.vaultAsset vault mint)) :=
  window_accounting history_executed _

def ClockLe (t t' : Transition (State Pubkey) (Action Pubkey)) : Prop :=
  ∀ now ∈ t.action.clock, ∀ now' ∈ t'.action.clock, now.toInt ≤ now'.toInt

-- through `Option.all`, since an instance search may decide `∀ now` by going through every clock
instance (t t' : Transition (State Pubkey) (Action Pubkey)) : Decidable (ClockLe t t') :=
  decidable_of_iff
    (t.action.clock.all fun now => t'.action.clock.all fun now' => now.toInt ≤ now'.toInt)
    (by cases ht : t.action.clock <;> cases ht' : t'.action.clock <;> simp [ClockLe, ht, ht'])

def ClockOrdered (tr : List (Transition (State Pubkey) (Action Pubkey))) : Prop :=
  tr.Pairwise ClockLe

instance {tr : List (Transition (State Pubkey) (Action Pubkey))} : Decidable (ClockOrdered tr) :=
  inferInstanceAs (Decidable (tr.Pairwise ClockLe))

def outflowWithin (key : Pubkey) (t₀ width : Int)
    (tr : List (Transition (State Pubkey) (Action Pubkey))) : Nat :=
  (tr.map fun t =>
    match t.action.clock with
    | some now =>
      if t₀ ≤ now.toInt ∧ now.toInt < t₀ + width then assetOutflow key t else 0
    | none => 0).sum

def State.Governed (s : State Pubkey) (key : Pubkey) (width : Int) (limit : Nat) : Prop :=
  ∃ asset, s.vaultAsset key = some asset ∧ width ≤ asset.windowSeconds.toInt ∧
    asset.windowLimit.toNat ≤ limit

instance {s : State Pubkey} {key : Pubkey} {width : Int} {limit : Nat} :
    Decidable (s.Governed key width limit) :=
  decidable_of_iff ((s.vaultAsset key).any fun asset =>
      width ≤ asset.windowSeconds.toInt ∧ asset.windowLimit.toNat ≤ limit) (by
    simp [State.Governed, Option.any_eq_true])

section

variable {key : Pubkey} {width : Int} {limit : Nat}

def State.window (s : State Pubkey) (key : Pubkey) : Window :=
  match s.vaultAsset key with
  | some asset => ⟨asset.windowStartedAt.toInt, asset.windowSpent.toNat⟩
  | none => ⟨0, 0⟩

def windowCharge (key : Pubkey) (t : Transition (State Pubkey) (Action Pubkey)) : Window.Charge where
  clock := t.action.clock.map Int64.toInt
  amount := assetOutflow key t

omit [DecidableEq Pubkey] [Solana Pubkey] in
theorem State.window_eq {s : State Pubkey} {asset : VaultAsset Pubkey}
    (h : s.vaultAsset key = some asset) :
    s.window key = ⟨asset.windowStartedAt.toInt, asset.windowSpent.toNat⟩ := by
  simp [State.window, h]

theorem Step.window_limited {s s' : State Pubkey} {a : Action Pubkey} (hstep : Step s a s')
    (hwidth : 0 < width) (hpre : s.Governed key width limit) (hpost : s'.Governed key width limit) :
    Window.Step width limit (s.window key) (windowCharge key ⟨s, a, s'⟩) (s'.window key) := by
  obtain ⟨asset, hasset, hseconds, -⟩ := hpre
  obtain ⟨asset', hasset', -, hlimit⟩ := hpost
  have hne : asset.windowSeconds ≠ 0 := by
    intro hzero
    simp [hzero] at hseconds
    omega
  obtain ⟨_, heq, hwindow⟩ := hstep.windowStep hasset
  rw [hasset', Option.some.injEq] at heq
  subst heq
  rw [State.window_eq hasset, State.window_eq hasset']
  cases hwindow with
  | sets _ hclock hspent hend hle =>
    have hend := hend hne
    rw [hspent]
    apply Window.Step.reset
    . simp only [windowCharge, hclock, Option.map_some]
    . simp only
      omega
    . simp only [windowCharge]
      omega
  | keeps _ hstart _ hspent hle =>
    rw [hstart, hspent hne]
    apply Window.Step.keep (c := windowCharge key ⟨s, a, s'⟩)
    have hspent := hspent hne
    simp only [windowCharge]
    rcases hle hne with hzero | hle
    . exact .inl hzero
    . exact .inr (by omega)

theorem outflow_bounded {before after : List (Transition (State Pubkey) (Action Pubkey))}
    {s : State Pubkey} (h : History (before ++ after) s) (hclock : ClockOrdered (before ++ after))
    (hwidth : 0 < width)
    (hpolicy : ∀ t ∈ after, t.pre.Governed key width limit ∧ t.post.Governed key width limit)
    (t₀ : Int) : outflowWithin key t₀ width after ≤ 2 * limit := by
  obtain ⟨s₁, -, run⟩ := Run.of_append h
  have hsim : Run (Window.Step width limit) (s₁.window key)
      (after.map fun t => ⟨t.pre.window key, windowCharge key t, t.post.window key⟩)
      (s.window key) := by
    apply run.map
    intro t hmem hstep
    exact hstep.window_limited hwidth (hpolicy t hmem).1 (hpolicy t hmem).2
  have hordered : Window.Ordered
      (after.map fun t => ⟨t.pre.window key, windowCharge key t, t.post.window key⟩) := by
    rw [Window.Ordered, List.pairwise_map]
    apply (List.pairwise_append.mp hclock).2.1.imp
    intro t t' hle a ha b hb
    simp only [windowCharge, Option.mem_def, Option.map_eq_some_iff] at ha hb
    obtain ⟨now, hnow, rfl⟩ := ha
    obtain ⟨now', hnow', rfl⟩ := hb
    exact hle now hnow now' hnow'
  have htotal : outflowWithin key t₀ width after = Window.totalWithin t₀ width
      (after.map fun t => ⟨t.pre.window key, windowCharge key t, t.post.window key⟩) := by
    rw [outflowWithin, Window.totalWithin, List.map_map]
    congr 2
    funext t
    simp only [Function.comp_apply, Window.Charge.within, windowCharge]
    cases t.action.clock <;> rfl
  rw [htotal]
  exact Window.totalWithin_le hwidth hsim hordered

end

open Scenario in
theorem outflow_bounded_execution :
    outflowWithin vaultAsset 5 100 ((start.final (setup ++ [(updateLimits, 4)])).replay
      [(withdraw 5, 5), (requestWithdrawal 30, 6), (executeWithdrawal, 16)]) ≤ 2 * 60 := by
  have hhistory := history_trace (setup ++ [(updateLimits, 4)] ++
    [(withdraw 5, 5), (requestWithdrawal 30, 6), (executeWithdrawal, 16)]) (by decide +kernel)
  rw [trace_append] at hhistory
  exact outflow_bounded hhistory (by decide +kernel) (by decide) (by decide +kernel) 5

end IronVault
