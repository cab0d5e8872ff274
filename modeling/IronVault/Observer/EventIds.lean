import IronVault.Observer.Attribution

/-!
This module contains that `extract_events` never panics and never assigns an id twice, whatever the
lines of the log are. The database would drop an event with an id that it has seen.
-/

namespace IronVault.Observer

theorem EventId.Before.ne {a b : EventId} (h : a.Before b) : a ≠ b := by
  rintro rfl
  cases h with
  | inl hlt => exact UInt32.lt_irrefl _ hlt
  | inr hlt => exact UInt32.lt_irrefl _ hlt.2

namespace LogScan

variable {scan : LogScan}

theorem tryFromInt32_index (scan : LogScan) :
    tryFromInt32 (max scan.instructionIndex 0) = some scan.index := by
  have hmax : max scan.instructionIndex 0
      = if scan.instructionIndex < 0 then 0 else scan.instructionIndex := by
    simp only [max, Max.max]
    grind
  unfold tryFromInt32 index
  rw [hmax]
  -- before the first invocation the index is -1, and a line counts for instruction 0
  by_cases hneg : scan.instructionIndex < 0
  . rw [if_pos hneg, if_pos hneg]
    rfl
  . rw [if_neg hneg, if_neg hneg, if_neg hneg]

theorem Room.checkedLine {n : Nat} (h : scan.Room (n + 1)) (programId : Text) (signature : String)
    (log : Text) :
    scan.checkedLine programId signature log = some (scan.line programId signature log) := by
  unfold LogScan.checkedLine LogScan.line
  split
  . split
    . have hroom := h.instructionIndex_lt
      have hlt : scan.instructionIndex.toInt + 1 < 2 ^ 31 := by omega
      unfold guard
      rw [if_pos hlt]
      rfl
    . rfl
  . split
    . rfl
    . split
      . have hroom := h.eventIndexes_lt scan.index
        have hlt : (scan.eventIndexes scan.index).toNat + 1 < 2 ^ 32 := by omega
        rw [tryFromInt32_index]
        unfold guard
        dsimp only [Option.bind_eq_bind, Option.bind_some]
        rw [if_pos hlt]
        rfl
      . rfl

theorem Room.checkedDataLines {programId : Text} {signature : String} {logs : List Text}
    (h : scan.Room logs.length) :
    scan.checkedDataLines programId signature logs
      = some (scan.dataLines programId signature logs) := by
  induction logs generalizing scan with
  | nil => rfl
  | cons log logs ih =>
    have hroom := (h.line programId signature log).1.room
    unfold LogScan.checkedDataLines LogScan.dataLines
    rw [h.checkedLine programId signature log]
    generalize scan.line programId signature log = next at *
    obtain ⟨next, id⟩ := next
    dsimp only [Option.bind_eq_bind, Option.bind_some]
    rw [ih hroom]
    cases id <;> rfl

end LogScan

variable {Pubkey : Type}

/--
For every text of the log and every program id. An entry of the output is the decoding of its data
line with the id of that line, or the error of the decoder.
-/
theorem event_ids_increase (settings : ObserverSettings Pubkey) (signature : String) (slot : UInt64)
    (blockTime : Option Int64) {logs : List Text} (h : logs.length < 2 ^ 31) :
    ∃ lines, LogScan.initial.checkedDataLines settings.programId signature logs = some lines ∧
      settings.extractEvents signature slot blockTime logs = lines.map (fun line =>
        (settings.decodeData line.2).map fun event => ⟨line.1, slot, blockTime, event⟩) ∧
      (lines.map Prod.fst).Pairwise EventId.Before ∧ (lines.map Prod.fst).Nodup := by
  have hroom := LogScan.Room.initial h
  have hpairwise : ((LogScan.initial.dataLines settings.programId signature logs).map
      Prod.fst).Pairwise EventId.Before := by
    rw [List.pairwise_map]
    exact (LogScan.dataLines_spec hroom).2
  refine ⟨_, hroom.checkedDataLines, extractEvents_eq .., hpairwise, ?_⟩
  apply hpairwise.imp
  intro id id' hbefore
  exact hbefore.ne

end IronVault.Observer

namespace IronVault.Scenario

open Observer

/--
A data line before any invocation of depth 1, then one in the first of them.
-/
def clampedLogs : List Text := [
  "Program ".toList ++ programId ++ " invoke [2]".toList,
  vaultPauseUpdatedLine true,
  "Program ".toList ++ programId ++ " invoke [1]".toList,
  "Program data: no base64".toList
]

theorem event_ids_increase_clamped :
    ∃ lines, LogScan.initial.checkedDataLines settings.programId "sig" clampedLogs = some lines ∧
      lines.map Prod.fst = [⟨"sig", 0, 0⟩, ⟨"sig", 0, 1⟩] ∧ (lines.map Prod.fst).Nodup := by
  have hlength : clampedLogs.length < 2 ^ 31 := by decide
  obtain ⟨lines, hlines, -, -, hnodup⟩ := event_ids_increase settings "sig" 3 none hlength
  have hids : (LogScan.initial.checkedDataLines settings.programId "sig" clampedLogs).map
      (List.map Prod.fst) = some [⟨"sig", 0, 0⟩, ⟨"sig", 0, 1⟩] := by decide +kernel
  rw [hlines, Option.map_some, Option.some.injEq] at hids
  exact ⟨lines, hlines, hids, hnodup⟩

end IronVault.Scenario
