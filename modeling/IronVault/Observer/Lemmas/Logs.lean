import IronVault.Observer.Impl.Logs

/-!
This module contains the order of the ids that `extract_events` assigns: within one transaction they
increase from line to line, whatever the lines are.
-/

namespace IronVault.Observer

variable {Pubkey : Type}

def EventId.Before (a b : EventId) : Prop :=
  a.instructionIndex < b.instructionIndex ∨
    a.instructionIndex = b.instructionIndex ∧ a.eventIndex < b.eventIndex

instance (a b : EventId) : Decidable (a.Before b) :=
  inferInstanceAs (Decidable (_ ∨ _))

namespace LogScan

variable {scan : LogScan} {programId : Text} {signature : String}

theorem index_toNat (scan : LogScan) : scan.index.toNat = scan.instructionIndex.toInt.toNat := by
  unfold index
  split
  . next h =>
    have hneg := Int32.lt_iff_toInt_lt.mp h
    simp only [Int32.toInt_zero] at hneg
    simp only [UInt32.toNat_zero]
    omega
  . next h =>
    rw [Int32.toNat_toUInt32_of_le (by simpa using h), Int32.toNat_toInt]

structure Room (scan : LogScan) (n : Nat) : Prop where
  instructionIndex_ge : -1 ≤ scan.instructionIndex.toInt
  instructionIndex_lt : scan.instructionIndex.toInt + n < 2 ^ 31
  eventIndexes_lt (i : UInt32) : (scan.eventIndexes i).toNat + n < 2 ^ 31

theorem Room.initial {n : Nat} (h : n < 2 ^ 31) : LogScan.initial.Room n where
  instructionIndex_ge := by decide
  instructionIndex_lt := by
    have : LogScan.initial.instructionIndex.toInt = -1 := by decide
    omega
  eventIndexes_lt i := by
    simpa [LogScan.initial] using h

def Floor (scan : LogScan) (id : EventId) : Prop :=
  scan.index < id.instructionIndex ∨
    scan.index = id.instructionIndex ∧ scan.eventIndexes scan.index ≤ id.eventIndex

structure Advances (scan next : LogScan) (n : Nat) : Prop where
  room : next.Room n
  floor {id : EventId} : next.Floor id → scan.Floor id

theorem Room.mono {n m : Nat} (h : scan.Room n) (hle : m ≤ n) : scan.Room m where
  instructionIndex_ge := h.instructionIndex_ge
  instructionIndex_lt := by
    have := h.instructionIndex_lt
    omega
  eventIndexes_lt i := by
    have := h.eventIndexes_lt i
    omega

theorem Room.instructionIndex_succ {n : Nat} (h : scan.Room (n + 1)) :
    (scan.instructionIndex + 1).toInt = scan.instructionIndex.toInt + 1 := by
  have hge := h.instructionIndex_ge
  have hlt := h.instructionIndex_lt
  rw [Int32.toInt_add, Int32.toInt_one]
  apply Int.bmod_eq_of_le <;> omega

theorem Room.eventIndexes_succ {n : Nat} (h : scan.Room (n + 1)) (i : UInt32) :
    (scan.eventIndexes i + 1).toNat = (scan.eventIndexes i).toNat + 1 := by
  have hlt := h.eventIndexes_lt i
  rw [UInt32.toNat_add, UInt32.toNat_one]
  apply Nat.mod_eq_of_lt
  omega

theorem Room.nextInstruction {n : Nat} (h : scan.Room (n + 1)) (stack : List Text) :
    scan.Advances { scan with stack, instructionIndex := scan.instructionIndex + 1 } n := by
  have hge := h.instructionIndex_ge
  have hlt := h.instructionIndex_lt
  have hnext := h.instructionIndex_succ
  constructor
  . constructor
    . simp only [hnext]
      omega
    . simp only [hnext]
      omega
    . intro i
      have := h.eventIndexes_lt i
      dsimp only
      omega
  . intro id hfloor
    have hindex := index_toNat scan
    have hindex' := index_toNat { scan with stack, instructionIndex := scan.instructionIndex + 1 }
    simp only [hnext] at hindex'
    unfold Floor at hfloor ⊢
    by_cases hfirst : scan.instructionIndex.toInt = -1
    . -- a data line before the first invocation counts for instruction 0
      have heq : { scan with stack, instructionIndex := scan.instructionIndex + 1 : LogScan }.index
          = scan.index := by
        rw [← UInt32.toNat_inj]
        omega
      rw [heq] at hfloor
      exact hfloor
    . left
      rw [UInt32.lt_iff_toNat_lt]
      cases hfloor with
      | inl hlt =>
        rw [UInt32.lt_iff_toNat_lt] at hlt
        omega
      | inr heq =>
        rw [← heq.1]
        omega

@[simp]
theorem index_countEvent (scan : LogScan) : scan.countEvent.index = scan.index := rfl

theorem Room.before_countEvent {n : Nat} (h : scan.Room (n + 1)) (signature : String) {id : EventId}
    (hfloor : scan.countEvent.Floor id) :
    EventId.Before ⟨signature, scan.index, scan.eventIndexes scan.index⟩ id := by
  have hnext := h.eventIndexes_succ scan.index
  unfold Floor at hfloor
  unfold EventId.Before
  rw [index_countEvent] at hfloor
  cases hfloor with
  | inl hlt => exact .inl hlt
  | inr heq =>
    refine .inr ⟨heq.1, ?_⟩
    have hle := UInt32.le_iff_toNat_le.mp heq.2
    simp only [countEvent, Function.update_self, hnext] at hle
    dsimp only
    rw [UInt32.lt_iff_toNat_lt]
    omega

theorem Room.countEvent {n : Nat} (h : scan.Room (n + 1)) : scan.Advances scan.countEvent n := by
  constructor
  . refine ⟨h.instructionIndex_ge, (h.mono (by omega)).instructionIndex_lt, ?_⟩
    intro i
    have hroom := h.eventIndexes_lt i
    have hlt := h.eventIndexes_lt scan.index
    unfold LogScan.countEvent
    dsimp only
    rw [Function.update_apply]
    split
    . rw [h.eventIndexes_succ scan.index]
      omega
    . omega
  . intro id hfloor
    cases h.before_countEvent "" hfloor with
    | inl hlt => exact .inl hlt
    | inr heq => exact .inr ⟨heq.1, UInt32.le_of_lt heq.2⟩

theorem Room.line {n : Nat} (h : scan.Room (n + 1)) (programId : Text) (signature : String)
    (log : Text) :
    scan.Advances (scan.line programId signature log).1 n ∧
    ∀ id ∈ (scan.line programId signature log).2, id.instructionIndex.toNat < 2 ^ 31 ∧
      id.eventIndex.toNat < 2 ^ 31 ∧ scan.Floor id ∧
      ∀ id', (scan.line programId signature log).1.Floor id' → id.Before id' := by
  have hsame (stack : List Text) : scan.Advances { scan with stack } n :=
    ⟨⟨h.instructionIndex_ge, (h.mono (by omega)).instructionIndex_lt,
      (h.mono (by omega)).eventIndexes_lt⟩, fun hfloor => hfloor⟩
  unfold LogScan.line
  split
  . split
    . exact ⟨h.nextInstruction _, by simp⟩
    . exact ⟨hsame _, by simp⟩
  . split
    . exact ⟨hsame _, by simp⟩
    . split
      . refine ⟨h.countEvent, ?_⟩
        intro id hid
        simp only [Option.mem_some_iff] at hid
        rw [← hid]
        have hevent := h.eventIndexes_lt scan.index
        have hindex := index_toNat scan
        have hinstruction := h.instructionIndex_lt
        refine ⟨?_, ?_, .inr ⟨rfl, UInt32.le_refl _⟩, fun _ => h.before_countEvent signature⟩
        . dsimp only
          omega
        . dsimp only
          omega
      . exact ⟨hsame scan.stack, by simp⟩

theorem dataLines_spec {logs : List Text} (h : scan.Room logs.length) :
    (∀ x ∈ scan.dataLines programId signature logs, x.1.instructionIndex.toNat < 2 ^ 31 ∧
      x.1.eventIndex.toNat < 2 ^ 31 ∧ scan.Floor x.1) ∧
    (scan.dataLines programId signature logs).Pairwise fun x y => x.1.Before y.1 := by
  induction logs generalizing scan with
  | nil => simp [dataLines]
  | cons log logs ih =>
    obtain ⟨hadvances, hid⟩ := h.line programId signature log
    unfold dataLines
    generalize scan.line programId signature log = next at *
    obtain ⟨next, id⟩ := next
    obtain ⟨hspec, hpairwise⟩ := ih hadvances.room
    cases id with
    | none =>
      refine ⟨?_, hpairwise⟩
      intro x hx
      obtain ⟨hinstruction, hevent, hfloor⟩ := hspec x hx
      exact ⟨hinstruction, hevent, hadvances.floor hfloor⟩
    | some id =>
      obtain ⟨hinstruction, hevent, hfloor, hbefore⟩ := hid id rfl
      refine ⟨?_, ?_⟩
      . intro x hx
        cases List.mem_cons.mp hx with
        | inl heq =>
          rw [heq]
          exact ⟨hinstruction, hevent, hfloor⟩
        | inr hx =>
          obtain ⟨hinstruction, hevent, hfloor⟩ := hspec x hx
          exact ⟨hinstruction, hevent, hadvances.floor hfloor⟩
      . rw [List.pairwise_cons]
        refine ⟨?_, hpairwise⟩
        intro x hx
        exact hbefore x.1 (hspec x hx).2.2

theorem line_signature {log : Text} {id : EventId}
    (h : (scan.line programId signature log).2 = some id) : id.transactionSignature = signature := by
  unfold LogScan.line at h
  split at h
  . split at h <;> simp at h
  . split at h
    . simp at h
    . split at h
      . rw [Option.some.injEq] at h
        rw [← h]
      . simp at h

theorem dataLines_signature {logs : List Text} {x : EventId × Text}
    (h : x ∈ scan.dataLines programId signature logs) : x.1.transactionSignature = signature := by
  induction logs generalizing scan with
  | nil => simp [dataLines] at h
  | cons log logs ih =>
    unfold dataLines at h
    split at h
    . next hline =>
      cases List.mem_cons.mp h with
      | inl heq =>
        rw [heq]
        exact line_signature (congrArg Prod.snd hline)
      | inr hmem => exact ih hmem
    . exact ih h

end LogScan

end IronVault.Observer
