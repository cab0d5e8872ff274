import IronVault.Observer.Impl.Monitor

/-!
This module contains which alerts the monitor raises: one for every pair of inspections in a row between
which the program was upgraded, and one for every finalized slot that is too far ahead of the observer.
-/

namespace IronVault.Observer

section Loader

variable {settings : MonitorSettings} {program : DeployedProgram}

theorem take_programAccount :
    (program.programAccount.drop 4).take 32 = program.programDataAddress.toList := by
  have hlength : (Borsh.serialize (2 : UInt32)).length = 4 := Borsh.length_toLittleEndian ..
  unfold DeployedProgram.programAccount
  rw [List.drop_left' hlength]
  exact List.take_of_length_le (by simp)

theorem take_programDataAccount :
    UInt64.ofNat (Borsh.ofLittleEndian ((program.programDataAccount.drop 4).take 8))
      = program.slot := by
  have hlength : (Borsh.serialize (3 : UInt32)).length = 4 := Borsh.length_toLittleEndian ..
  have hslot : (Borsh.serialize program.slot).length = 8 := Borsh.length_toLittleEndian ..
  have hread : Borsh.ofLittleEndian (Borsh.serialize program.slot) = program.slot.toNat :=
    Borsh.ofLittleEndian_toLittleEndian program.slot.toNat_lt
  unfold DeployedProgram.programDataAccount
  rw [List.drop_left' hlength, List.take_left' hslot, hread]
  exact UInt64.ofNat_toNat

theorem fetchDeploymentSlot_eq {getProgram getProgramData : Text → RpcResponse AccountInfoResult}
    (hprogram : settings.Truthful (getProgram settings.programId) program.programAccount)
    (hprogramData : settings.Truthful (getProgramData (settings.bs58 program.programDataAddress.toList))
      program.programDataAccount) {slot : UInt64}
    (h : settings.fetchDeploymentSlot getProgram getProgramData = .ok slot) : slot = program.slot := by
  unfold MonitorSettings.fetchDeploymentSlot at h
  simp only [Except.bind_eq_ok_iff, require_eq_ok, Except.pure_eq_ok_iff] at h
  obtain ⟨account, haccount, -, -, data, hdata, -, -, hslot⟩ := h
  have heq := hprogram account haccount
  subst heq
  rw [take_programAccount] at hdata
  have heq := hprogramData data hdata
  subst heq
  rw [← hslot, take_programDataAccount]

end Loader

section Statement

variable {Pubkey : Type}

/--
What happened since the last successful inspection of the running process. There is none after a
restart.
-/
def sinceInspection (tr : List (Transition (MonitorWorld Pubkey) MonitorAction)) :
    Option (List MonitorAction) :=
  tr.foldl (fun since x =>
    match x.action with
    | .inspect (.ok _) => some []
    | .restart => none
    | a => since.map (· ++ [a])) none

def MonitorAction.isUpgrade : MonitorAction → Bool
  | .upgrade => true
  | _ => false

def upgrades (tr : List (Transition (MonitorWorld Pubkey) MonitorAction)) : Nat :=
  tr.countP fun x => x.action.isUpgrade

def UpgradedSinceInspection (tr : List (Transition (MonitorWorld Pubkey) MonitorAction)) : Prop :=
  ∃ later, sinceInspection tr = some later ∧ .upgrade ∈ later

/--
The alerts of one step after the steps `tr`.
-/
inductive Raises (settings : MonitorSettings)
    (tr : List (Transition (MonitorWorld Pubkey) MonitorAction)) (status : SyncStatus) :
    MonitorAction → List (Alert Pubkey) → Prop where
  | upgraded {slot : UInt64} (h : UpgradedSinceInspection tr) :
      Raises settings tr status (.inspect (.ok slot)) [.programUpgradeObserved]
  | unchanged {slot : UInt64} (h : ¬ UpgradedSinceInspection tr) :
      Raises settings tr status (.inspect (.ok slot)) []
  | behind {slot : UInt64}
      (h : settings.maxReadySlotLag.toNat + status.observedSlot.toNat < slot.toNat) :
      Raises settings tr status (.refresh (.ok slot))
        [.observerFallingBehind (slot - status.observedSlot)]
  | close {slot : UInt64}
      (h : slot.toNat ≤ settings.maxReadySlotLag.toNat + status.observedSlot.toNat) :
      Raises settings tr status (.refresh (.ok slot)) []
  | failed {e : RpcError} : Raises settings tr status (.inspect (.error e)) []
  | unread {e : RpcError} : Raises settings tr status (.refresh (.error e)) []
  | upgrade : Raises settings tr status .upgrade []
  | observer : Raises settings tr status .observer []
  | restart : Raises settings tr status .restart []

end Statement

section Inspection

variable {Pubkey : Type} {settings : MonitorSettings} {w w' : MonitorWorld Pubkey} {a : MonitorAction}
variable {program : DeployedProgram} {tr : List (Transition (MonitorWorld Pubkey) MonitorAction)}

theorem sinceInspection_append (x : Transition (MonitorWorld Pubkey) MonitorAction) :
    sinceInspection (tr ++ [x]) =
      match x.action with
      | .inspect (.ok _) => some []
      | .restart => none
      | a => (sinceInspection tr).map (· ++ [a]) := by
  unfold sinceInspection
  rw [List.foldl_append]
  rfl

/--
The slot that the task remembers is the one of the last inspection, and it differs from the one on the
chain when the program was upgraded since.
-/
def Remembers (tr : List (Transition (MonitorWorld Pubkey) MonitorAction)) (w : MonitorWorld Pubkey) :
    Prop :=
  match sinceInspection tr, w.monitor.deploymentSlot with
  | none, none => True
  | some later, some slot =>
    slot ≤ w.program.slot ∧ (slot = w.program.slot ↔ .upgrade ∉ later)
  | _, _ => False

theorem Remembers.upgraded_iff (h : Remembers tr w) :
    UpgradedSinceInspection tr ↔ w.monitor.deploymentSlot.any (· ≠ w.program.slot) := by
  unfold Remembers at h
  unfold UpgradedSinceInspection
  split at h
  . next hsince hslot => simp [hsince, hslot]
  . next later slot hsince hslot =>
    simp [hsince, hslot, h.2]
  . cases h

theorem Remembers.keep (h : Remembers tr w) {x : Transition (MonitorWorld Pubkey) MonitorAction}
    (hsince : sinceInspection (tr ++ [x]) = (sinceInspection tr).map (· ++ [a]))
    (ha : a ≠ .upgrade) (hprogram : w'.program.slot = w.program.slot)
    (hmonitor : w'.monitor.deploymentSlot = w.monitor.deploymentSlot) : Remembers (tr ++ [x]) w' := by
  unfold Remembers at h ⊢
  rw [hsince, hprogram, hmonitor]
  split at h
  . next hsince hslot =>
    rw [hsince, hslot]
    trivial
  . next later slot hsince hslot =>
    rw [hsince, hslot]
    refine ⟨h.1, ?_⟩
    rw [h.2, List.mem_append, List.mem_singleton, not_or]
    exact ⟨fun hnotin => ⟨hnotin, Ne.symm ha⟩, fun hnotin => hnotin.1⟩
  . cases h

theorem Remembers.step (h : Remembers tr w) (hstep : MonitorStep settings w a w') :
    Remembers (tr ++ [⟨w, a, w'⟩]) w' := by
  cases hstep with
  | @upgrade _ slot rest hslot =>
    unfold Remembers at h ⊢
    rw [sinceInspection_append]
    split at h
    . next hsince hremembered =>
      rw [hsince, hremembered]
      trivial
    . next later remembered hsince hremembered =>
      rw [hsince, hremembered]
      have hlt : remembered < slot := UInt64.lt_of_le_of_lt h.1 hslot
      refine ⟨UInt64.le_of_lt hlt, ?_⟩
      constructor
      . intro heq
        exact absurd heq (UInt64.ne_of_lt hlt)
      . intro hnotin
        have hmem := List.mem_append_right later (List.mem_singleton_self MonitorAction.upgrade)
        exact absurd hmem hnotin
    . cases h
  | observer hlag =>
    exact h.keep (a := .observer) (sinceInspection_append _) (by simp) rfl rfl
  | @refresh _ response hloop =>
    have hmonitor : (w.monitor.refresh settings (getSlot response)).deploymentSlot
        = w.monitor.deploymentSlot := by
      cases getSlot response <;> rfl
    exact h.keep (a := .refresh (getSlot response)) (sinceInspection_append _) (by simp) rfl hmonitor
  | @inspect _ getProgram getProgramData hloop hprogram hprogramData =>
    cases hresult : settings.fetchDeploymentSlot getProgram getProgramData with
    | ok slot =>
      unfold Remembers
      rw [sinceInspection_append]
      show slot ≤ w.program.slot ∧ (slot = w.program.slot ↔ MonitorAction.upgrade ∉ [])
      rw [fetchDeploymentSlot_eq hprogram hprogramData hresult]
      simp
    | error e =>
      exact h.keep (a := .inspect (.error e)) (sinceInspection_append _) (by simp) rfl rfl
  | restart =>
    unfold Remembers
    rw [sinceInspection_append]
    trivial

theorem Remembers.run (run : Run (MonitorStep settings) ⟨program, .initial⟩ tr w) : Remembers tr w := by
  induction run with
  | nil => trivial
  | snoc _ hstep ih => exact ih.step hstep

theorem lag_monitored (status : SyncStatus) (slot : UInt64) :
    (status.monitored slot).lag
      = if status.observedSlot ≤ slot then slot - status.observedSlot else 0 :=
  rfl

theorem SyncStatus.lt_lag_iff {status : SyncStatus} {bound : UInt64} :
    bound < status.lag ↔ bound.toNat + status.observedSlot.toNat < status.rpcSlot.toNat := by
  unfold SyncStatus.lag
  rw [UInt64.lt_iff_toNat_lt]
  split
  . next hle =>
    rw [UInt64.toNat_sub_of_le _ _ hle]
    rw [UInt64.le_iff_toNat_le] at hle
    omega
  . next hle =>
    rw [UInt64.le_iff_toNat_le] at hle
    have hzero : (0 : UInt64).toNat = 0 := rfl
    omega

theorem lt_lag_monitored_iff {status : SyncStatus} {slot bound : UInt64} :
    bound < (status.monitored slot).lag ↔ bound.toNat + status.observedSlot.toNat < slot.toNat :=
  SyncStatus.lt_lag_iff

theorem Remembers.raises (h : Remembers tr w) (hstep : MonitorStep settings w a w') :
    ∃ alerts, Raises settings tr w.monitor.status a alerts ∧
      w'.monitor.alerts = w.monitor.alerts ++ alerts := by
  cases hstep with
  | upgrade => exact ⟨[], .upgrade, (List.append_nil _).symm⟩
  | observer => exact ⟨[], .observer, (List.append_nil _).symm⟩
  | restart => exact ⟨[], .restart, (List.append_nil _).symm⟩
  | @refresh _ response hloop =>
    cases getSlot response with
    | error e => exact ⟨[], .unread, (List.append_nil _).symm⟩
    | ok slot =>
      by_cases hlag : settings.maxReadySlotLag < (w.monitor.status.monitored slot).lag
      . have hbehind := lt_lag_monitored_iff.mp hlag
        refine ⟨_, .behind hbehind, ?_⟩
        have hle : w.monitor.status.observedSlot ≤ slot := by
          rw [UInt64.le_iff_toNat_le]
          omega
        show (if _ then _ else _) = _
        rw [if_pos hlag, lag_monitored, if_pos hle]
      . have hclose := mt lt_lag_monitored_iff.mpr hlag
        refine ⟨_, .close (by omega), ?_⟩
        show (if _ then _ else _) = _
        rw [if_neg hlag, List.append_nil]
  | @inspect _ getProgram getProgramData hloop hprogram hprogramData =>
    cases hresult : settings.fetchDeploymentSlot getProgram getProgramData with
    | error e => exact ⟨[], .failed, (List.append_nil _).symm⟩
    | ok slot =>
      have hslot := fetchDeploymentSlot_eq hprogram hprogramData hresult
      subst hslot
      by_cases hupgraded : w.monitor.deploymentSlot.any (· ≠ w.program.slot)
      . refine ⟨_, .upgraded (h.upgraded_iff.mpr hupgraded), ?_⟩
        show (if _ then _ else _) = _
        rw [if_pos hupgraded]
      . refine ⟨_, .unchanged (mt h.upgraded_iff.mp hupgraded), ?_⟩
        show (if _ then _ else _) = _
        rw [if_neg hupgraded, List.append_nil]

theorem UpgradedSinceInspection.of_snoc {x : Transition (MonitorWorld Pubkey) MonitorAction}
    (h : UpgradedSinceInspection (tr ++ [x])) :
    x.action = .upgrade ∨
      (UpgradedSinceInspection tr ∧ ∀ slot, x.action ≠ .inspect (.ok slot)) := by
  obtain ⟨later, hsince, hmem⟩ := h
  rw [sinceInspection_append] at hsince
  split at hsince
  . cases hsince
    cases hmem
  . cases hsince
  . next hinspect hrestart =>
    obtain ⟨earlier, hearlier, rfl⟩ := Option.map_eq_some_iff.mp hsince
    rw [List.mem_append, List.mem_singleton] at hmem
    cases hmem with
    | inl hmem => exact .inr ⟨⟨earlier, hearlier, hmem⟩, hinspect⟩
    | inr heq => exact .inl heq.symm

variable [DecidableEq Pubkey]

/--
No upgrade is reported twice, and one that is still to be reported has not been counted.
-/
structure Counted (tr : List (Transition (MonitorWorld Pubkey) MonitorAction))
    (w : MonitorWorld Pubkey) : Prop where
  count_le : w.monitor.alerts.count .programUpgradeObserved ≤ upgrades tr
  count_lt : UpgradedSinceInspection tr →
    w.monitor.alerts.count .programUpgradeObserved < upgrades tr

theorem Raises.count_eq_zero {status : SyncStatus} {alerts : List (Alert Pubkey)}
    (h : Raises settings tr status a alerts) (ha : ∀ slot, a ≠ .inspect (.ok slot)) :
    alerts.count .programUpgradeObserved = 0 := by
  cases h with
  | upgraded => exact absurd rfl (ha _)
  | behind => simp
  | _ => rfl

theorem Counted.step (h : Counted tr w) (hremembers : Remembers tr w)
    (hstep : MonitorStep settings w a w') : Counted (tr ++ [⟨w, a, w'⟩]) w' := by
  obtain ⟨alerts, hraises, halerts⟩ := hremembers.raises hstep
  have hcount : w'.monitor.alerts.count .programUpgradeObserved
      = w.monitor.alerts.count .programUpgradeObserved + alerts.count .programUpgradeObserved := by
    rw [halerts, List.count_append]
  have hupgrades : upgrades (tr ++ [⟨w, a, w'⟩]) = upgrades tr + if a.isUpgrade then 1 else 0 := by
    unfold upgrades
    rw [List.countP_append, List.countP_singleton]
  have hle := h.count_le
  constructor
  . rw [hcount, hupgrades]
    by_cases ha : ∃ slot, a = .inspect (.ok slot)
    . obtain ⟨slot, rfl⟩ := ha
      cases hraises with
      | upgraded hup =>
        have hlt := h.count_lt hup
        rw [List.count_singleton_self]
        omega
      | unchanged =>
        rw [List.count_nil]
        omega
    . rw [hraises.count_eq_zero (not_exists.mp ha)]
      omega
  . intro hup
    rw [hcount, hupgrades]
    cases hup.of_snoc with
    | inl heq =>
      replace heq : a = .upgrade := heq
      subst heq
      rw [hraises.count_eq_zero (by simp)]
      simp only [MonitorAction.isUpgrade, if_true]
      omega
    | inr hkept =>
      have hlt := h.count_lt hkept.1
      rw [hraises.count_eq_zero hkept.2]
      omega

theorem Counted.run (run : Run (MonitorStep settings) ⟨program, .initial⟩ tr w) : Counted tr w := by
  induction run with
  | nil =>
    refine ⟨Nat.le_refl _, ?_⟩
    rintro ⟨later, hsince, -⟩
    cases hsince
  | snoc run hstep ih => exact ih.step (Remembers.run run) hstep

end Inspection

section Monitoring

variable {Pubkey : Type} [DecidableEq Pubkey] {settings : MonitorSettings} {program : DeployedProgram}
variable {w w' : MonitorWorld Pubkey} {tr : List (Transition (MonitorWorld Pubkey) MonitorAction)}

end Monitoring

section Witness

def answer (address text : String) (asked : Text) : RpcResponse AccountInfoResult :=
  if asked = address.toList then some ⟨some ⟨some ⟨text.toList, "base64".toList⟩⟩, none⟩
  else some ⟨some ⟨none⟩, none⟩

def getProgram : Text → RpcResponse AccountInfoResult :=
  answer "2UWmTuefm4gqbfuZP36NSJMMSKLM4Rbop25jf1uBZAu1"
    "AgAAAAEBAQEBAQEBAQEBAQEBAQEBAQEBAQEBAQEBAQEBAQEB"

def getProgramData (text : String) : Text → RpcResponse AccountInfoResult :=
  answer "4vJ9JU1bJJE96FWSJKvHsmmFADCg4gpZQff4P3bkLKi" text

end Witness

end IronVault.Observer
