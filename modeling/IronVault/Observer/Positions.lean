import IronVault.Observer.Attribution

/-!
This module contains the positions that `extract_events` gives the events of a transaction. A message
that reads like the line of an outermost invocation moves all positions after it.
-/

namespace IronVault.Observer

variable {Pubkey : Type}

section Numbered

/--
Every element with the number of times that it was seen before.
-/
def numbered (seen : List Nat) : List Nat → List (Nat × Nat)
  | [] => []
  | x :: xs => (x, seen.count x) :: numbered (x :: seen) xs

theorem numbered_getElem? (seen xs : List Nat) (i : Nat) :
    (numbered seen xs)[i]? = xs[i]?.map fun x => (x, (xs.take i).count x + seen.count x) := by
  induction xs generalizing seen i with
  | nil => rfl
  | cons x xs ih =>
    cases i with
    | zero => simp [numbered]
    | succ i =>
      rw [numbered, List.getElem?_cons_succ, List.getElem?_cons_succ, ih]
      apply Option.map_congr
      intro y _
      rw [List.take_succ_cons, List.count_cons, List.count_cons]
      congr 1
      omega

theorem numbered_eq_iff {xs fs : List Nat} (hsorted : fs.Pairwise (· ≤ ·)) {i x f : Nat}
    (hx : xs[i]? = some x) (hf : fs[i]? = some f) :
    (numbered [] (List.zipWith (· + ·) xs fs))[i]? = (numbered [] xs)[i]? ↔ f = 0 := by
  have hsum : (List.zipWith (· + ·) xs fs)[i]? = some (x + f) := by
    rw [List.getElem?_zipWith, hx, hf]
  rw [numbered_getElem?, numbered_getElem?, hsum, hx]
  simp only [Option.map_some, Option.some.injEq, Prod.mk.injEq]
  constructor
  . rintro ⟨heq, -⟩
    omega
  . rintro rfl
    -- nothing was added to the elements before either
    have htake : (List.zipWith (· + ·) xs fs).take i = xs.take i := by
      apply List.ext_getElem?
      intro j
      rw [List.getElem?_take, List.getElem?_take]
      split
      . next hlt =>
        obtain ⟨hxlen, -⟩ := List.getElem?_eq_some_iff.mp hx
        obtain ⟨hflen, hzero⟩ := List.getElem?_eq_some_iff.mp hf
        have hle := List.pairwise_iff_getElem.mp hsorted j i (by omega) hflen hlt
        rw [List.getElem?_zipWith, List.getElem?_eq_getElem (show j < xs.length by omega),
          List.getElem?_eq_getElem (show j < fs.length by omega)]
        dsimp only
        congr 1
        omega
      . rfl
    rw [htake]
    simp

theorem zipWith_map_const {α : Type} {a : Nat} {xs : List α} {ys : List Nat}
    (h : xs.length = ys.length) :
    List.zipWith (· + ·) (xs.map fun _ => a) ys = ys.map (a + ·) := by
  induction xs generalizing ys with
  | nil => simp [List.length_eq_zero_iff.mp h.symm]
  | cons x xs ih =>
    cases ys with
    | nil => simp at h
    | cons y ys =>
      rw [List.map_cons, List.zipWith_cons_cons, List.map_cons, ih (by simpa using h)]

end Numbered

section Scan

namespace LogScan

/--
`count` outermost invocations were opened, and `seen` are the instruction indexes of the events so
far.
-/
structure Tracks (scan : LogScan) (count : Nat) (seen : List Nat) : Prop where
  instructionIndex_eq : scan.instructionIndex.toInt = count - 1
  eventIndexes_eq (i : UInt32) : (scan.eventIndexes i).toNat = seen.count i.toNat

theorem Tracks.initial : LogScan.initial.Tracks 0 [] where
  instructionIndex_eq := by decide
  eventIndexes_eq i := by simp [LogScan.initial]

variable {scan : LogScan} {count n : Nat} {seen : List Nat}

theorem Tracks.index_eq (h : scan.Tracks count seen) : scan.index.toNat = count - 1 := by
  rw [index_toNat, h.instructionIndex_eq]
  omega

theorem Tracks.countEvent (h : scan.Tracks count seen) (hroom : scan.Room (n + 1)) :
    scan.countEvent.Tracks count ((count - 1) :: seen) where
  instructionIndex_eq := h.instructionIndex_eq
  eventIndexes_eq i := by
    unfold LogScan.countEvent
    dsimp only
    rw [Function.update_apply, List.count_cons]
    split
    . next heq => rw [heq, hroom.eventIndexes_succ, h.eventIndexes_eq, h.index_eq]; simp
    . next hne =>
      have hne' : ¬ (count - 1 == i.toNat) = true := by
        rw [beq_iff_eq, ← h.index_eq, UInt32.toNat_inj]
        exact Ne.symm hne
      rw [if_neg hne', h.eventIndexes_eq, Nat.add_zero]

theorem Tracks.line (h : scan.Tracks count seen) (hroom : scan.Room (n + 1)) (programId : Text)
    (signature : String) (log : Text) :
    (scan.line programId signature log).1.Tracks (count + outermost log)
      (((scan.line programId signature log).2.map fun _ => count - 1).toList ++ seen) ∧
    ∀ id ∈ (scan.line programId signature log).2,
      id.instructionIndex.toNat = count - 1 ∧ id.eventIndex.toNat = seen.count (count - 1) := by
  unfold LogScan.line outermost
  cases parseInvoke log with
  | some opened =>
    obtain ⟨program, depth⟩ := opened
    dsimp only
    split
    . refine ⟨⟨?_, h.eventIndexes_eq⟩, by simp⟩
      dsimp only
      rw [hroom.instructionIndex_succ, h.instructionIndex_eq]
      omega
    . exact ⟨⟨h.instructionIndex_eq, h.eventIndexes_eq⟩, by simp⟩
  | none =>
    dsimp only
    split
    . exact ⟨⟨h.instructionIndex_eq, h.eventIndexes_eq⟩, by simp⟩
    . split
      . refine ⟨h.countEvent hroom, ?_⟩
        intro id hid
        rw [Option.mem_some_iff] at hid
        rw [← hid]
        refine ⟨h.index_eq, ?_⟩
        dsimp only
        rw [h.eventIndexes_eq, h.index_eq]
      . exact ⟨⟨h.instructionIndex_eq, h.eventIndexes_eq⟩, by simp⟩

end LogScan

def EventId.position (id : EventId) : Nat × Nat :=
  (id.instructionIndex.toNat, id.eventIndex.toNat)

theorem ScansAt.positions {programId : Text} {stack logs texts final : List Text} {count last : Nat}
    {counts seen : List Nat} {scan : LogScan} (signature : String)
    (h : ScansAt programId stack count logs counts texts final last) (hstack : scan.stack = stack)
    (htracks : scan.Tracks count seen) (hroom : scan.Room logs.length) :
    (scan.dataLines programId signature logs).map (·.1.position)
      = numbered seen (counts.map (· - 1)) := by
  induction h generalizing scan seen with
  | nil => rfl
  | @cons stack stack' final logs texts log own count last counts hline _ ih =>
    obtain ⟨hnext, hown⟩ := scan.line_eq_readLine programId signature log
    obtain ⟨htracks', hid⟩ := htracks.line hroom programId signature log
    obtain ⟨hadvances, -⟩ := hroom.line programId signature log
    rw [hstack, hline] at hnext hown
    dsimp only at hnext hown
    unfold LogScan.dataLines
    generalize scan.line programId signature log = next at *
    obtain ⟨next, id⟩ := next
    have hrest := ih hnext htracks' hadvances.room
    cases id with
    | none =>
      rw [← hown]
      exact hrest
    | some id =>
      obtain ⟨hinstruction, hevent⟩ := hid id rfl
      have hposition : id.position = (count - 1, seen.count (count - 1)) := by
        rw [EventId.position, hinstruction, hevent]
      rw [← hown, List.map_cons, hposition]
      exact congrArg (_ :: ·) hrest

end Scan

namespace Transcript

variable (programId : Text)

/--
For every data line in `ownData` the index of the outermost invocation that it is logged in, when the
outermost invocations of the transaction are numbered from `index` on.
-/
def ownIndexes (index : Nat) : Transcript → List Nat
  | done => []
  | message _ rest => rest.ownIndexes index
  | data _ rest => rest.ownIndexes index
  | returned _ _ rest => rest.ownIndexes index
  | invocation program body _ rest =>
    (body.ownData programId (program = programId)).map (fun _ => index) ++
      rest.ownIndexes (index + 1)

/--
For every data line in `ownData` the instruction index and the event index that it should have.
-/
def ownPositions (transcript : Transcript) : List (Nat × Nat) :=
  numbered [] (transcript.ownIndexes programId 0)

/--
For every data line in `ownData` the number of messages before it that read like the line of an
outermost invocation.
-/
def imitationsBefore (own : Bool) (count : Nat) : Transcript → List Nat
  | done => []
  | message text rest => rest.imitationsBefore own (count + outermost (messageLine text))
  | data _ rest => (if own then [count] else []) ++ rest.imitationsBefore own count
  | returned _ _ rest => rest.imitationsBefore own count
  | invocation program body _ rest =>
    body.imitationsBefore (program = programId) count ++
      rest.imitationsBefore own (count + body.imitations)

variable {programId} {own : Bool} {count depth : Nat}

theorem openedBefore_eq_imitationsBefore (hdepth : 1 < depth) (transcript : Transcript) :
    transcript.openedBefore programId depth own count
      = transcript.imitationsBefore programId own count := by
  induction transcript generalizing own count depth with
  | done => rfl
  | message text rest ih => exact ih hdepth
  | data fields rest ih => exact congrArg (_ ++ ·) (ih hdepth)
  | returned program field rest ih => exact ih hdepth
  | invocation program body consumed rest ihbody ihrest =>
    rw [openedBefore, imitationsBefore, if_neg (by omega), ihbody (by omega), ihrest hdepth]
    rfl

theorem imitationsBefore_add (k : Nat) (transcript : Transcript) :
    transcript.imitationsBefore programId own (k + count)
      = (transcript.imitationsBefore programId own count).map (k + ·) := by
  induction transcript generalizing own count with
  | done => rfl
  | message text rest ih =>
    rw [imitationsBefore, imitationsBefore, Nat.add_assoc, ih]
  | data fields rest ih =>
    rw [imitationsBefore, imitationsBefore, ih, List.map_append]
    cases own <;> rfl
  | returned program field rest ih => exact ih
  | invocation program body consumed rest ihbody ihrest =>
    rw [imitationsBefore, imitationsBefore, Nat.add_assoc, ihbody, ihrest, List.map_append]

theorem length_imitationsBefore (programId : Text) (own : Bool) (count : Nat)
    (transcript : Transcript) :
    (transcript.imitationsBefore programId own count).length
      = (transcript.ownData programId own).length := by
  induction transcript generalizing own count with
  | done => rfl
  | message text rest ih => exact ih own _
  | data fields rest ih =>
    rw [imitationsBefore, ownData, List.length_append, List.length_append, ih]
    cases own <;> rfl
  | returned program field rest ih => exact ih own count
  | invocation program body consumed rest ihbody ihrest =>
    rw [imitationsBefore, ownData, List.length_append, List.length_append, ihbody, ihrest]

theorem length_ownIndexes (programId : Text) (index : Nat) (transcript : Transcript) :
    (transcript.ownIndexes programId index).length
      = (transcript.ownData programId false).length := by
  induction transcript generalizing index with
  | done => rfl
  | message text rest ih => exact ih index
  | data fields rest ih => exact ih index
  | returned program field rest ih => exact ih index
  | invocation program body consumed rest _ ihrest =>
    rw [ownIndexes, ownData, List.length_append, List.length_append, List.length_map, ihrest]

theorem imitationsBefore_bounds (programId : Text) (own : Bool) (count : Nat)
    (transcript : Transcript) :
    (∀ n ∈ transcript.imitationsBefore programId own count,
      count ≤ n ∧ n ≤ count + transcript.imitations) ∧
    (transcript.imitationsBefore programId own count).Pairwise (· ≤ ·) := by
  induction transcript generalizing own count with
  | done => simp [imitationsBefore]
  | message text rest ih =>
    obtain ⟨hbounds, hsorted⟩ := ih own (count + outermost (messageLine text))
    refine ⟨?_, hsorted⟩
    intro n hn
    have hn := hbounds n hn
    rw [imitations]
    omega
  | data fields rest ih =>
    obtain ⟨hbounds, hsorted⟩ := ih own count
    rw [imitationsBefore, imitations]
    cases own with
    | false => exact ⟨hbounds, hsorted⟩
    | true =>
      rw [if_pos rfl, List.singleton_append, List.pairwise_cons]
      refine ⟨?_, fun n hn => (hbounds n hn).1, hsorted⟩
      intro n hn
      cases List.mem_cons.mp hn with
      | inl heq => omega
      | inr hn => exact hbounds n hn
  | returned program field rest ih => exact ih own count
  | invocation program body consumed rest ihbody ihrest =>
    obtain ⟨hbody, hsortedBody⟩ := ihbody (program = programId) count
    obtain ⟨hrest, hsortedRest⟩ := ihrest own (count + body.imitations)
    rw [imitationsBefore, imitations, List.pairwise_append]
    refine ⟨?_, hsortedBody, hsortedRest, ?_⟩
    . intro n hn
      cases List.mem_append.mp hn with
      | inl hn =>
        have := hbody n hn
        omega
      | inr hn =>
        have := hrest n hn
        omega
    . intro n hn m hm
      have := hbody n hn
      have := hrest m hm
      omega

theorem openedBefore_one (index : Nat) (transcript : Transcript) :
    transcript.openedBefore programId 1 false (index + count)
      = (List.zipWith (· + ·) (transcript.ownIndexes programId index)
        (transcript.imitationsBefore programId false count)).map (· + 1) := by
  induction transcript generalizing index count with
  | done => rfl
  | message text rest ih =>
    rw [openedBefore, Nat.add_assoc]
    exact ih index
  | data fields rest ih => exact ih index
  | returned program field rest ih => exact ih index
  | invocation program body consumed rest _ ihrest =>
    have hcount : index + count + 1 + body.imitations = index + 1 + (count + body.imitations) := by
      omega
    have hbody : index + count + 1 = index + 1 + count := by
      omega
    have hlength := length_imitationsBefore programId (program = programId) count body
    rw [openedBefore, ownIndexes, imitationsBefore, if_pos rfl, hcount, ihrest, hbody,
      openedBefore_eq_imitationsBefore (by omega), imitationsBefore_add,
      List.zipWith_append (by rw [List.length_map, hlength]), List.map_append,
      zipWith_map_const hlength.symm, List.map_map]
    congr 2
    funext n
    dsimp only [Function.comp_apply]
    omega

end Transcript

theorem extractEvents_getElem? {settings : ObserverSettings Pubkey} {signature : String}
    {slot : UInt64} {blockTime : Option Int64} {logs : List Text} {i : Nat}
    {observed : ObservedEvent Pubkey} :
    (settings.extractEvents signature slot blockTime logs)[i]? = some (.ok observed) ↔
      ∃ id line event, (LogScan.initial.dataLines settings.programId signature logs)[i]?
        = some (id, line) ∧ settings.decodeData line = .ok event ∧
        observed = ⟨id, slot, blockTime, event⟩ := by
  rw [extractEvents_eq]
  simp only [List.getElem?_map, Option.map_eq_some_iff, Prod.exists]
  constructor
  . rintro ⟨id, line, hline, hdecoded⟩
    obtain ⟨event, hevent, rfl⟩ := Except.map_eq_ok_iff.mp hdecoded
    exact ⟨id, line, event, hline, hevent, rfl⟩
  . rintro ⟨id, line, event, hline, hevent, rfl⟩
    exact ⟨id, line, hline, Except.map_eq_ok_iff.mpr ⟨event, hevent, rfl⟩⟩

/--
Every event that is returned has the instruction index and the event index of its data line.
-/
def TruePositions (settings : ObserverSettings Pubkey) (transcript : Transcript)
    (signature : String) (slot : UInt64) (blockTime : Option Int64) : Prop :=
  ∀ (i : Nat) (observed : ObservedEvent Pubkey),
    (settings.extractEvents signature slot blockTime (transcript.lines 1))[i]?
      = some (.ok observed) →
    (transcript.ownPositions settings.programId)[i]? = some observed.id.position

/--
No message reads like the line of an outermost invocation before a data line with an event.
-/
def NoImitationBeforeEvent (settings : ObserverSettings Pubkey) (transcript : Transcript) : Prop :=
  ∀ (i : Nat) (line : Text) (event : IronVaultEvent Pubkey),
    (transcript.ownData settings.programId false)[i]? = some line →
    settings.decodeData line = .ok event →
    (transcript.imitationsBefore settings.programId false 0)[i]? = some 0

theorem dataLines_transcript {settings : ObserverSettings Pubkey}
    (hprogram : IsProgramId settings.programId) {transcript : Transcript}
    (hwf : transcript.WellFormed 1)
    (hquiet : transcript.MessagesWithin settings.programId Transcript.QuietMessage)
    (hlines : (transcript.lines 1).length < 2 ^ 31) (signature : String) :
    (LogScan.initial.dataLines settings.programId signature (transcript.lines 1)).map Prod.snd
      = transcript.ownData settings.programId false ∧
    (LogScan.initial.dataLines settings.programId signature (transcript.lines 1)).map (·.1.position)
      = numbered [] (List.zipWith (· + ·) (transcript.ownIndexes settings.programId 0)
        (transcript.imitationsBefore settings.programId false 0)) := by
  obtain ⟨final, -, hscan⟩ := Transcript.scansAt_of_messagesWithin 0 hprogram hwf
    (Nat.le_refl 1) hquiet (List.not_mem_nil (a := settings.programId))
  refine ⟨hscan.scans.dataLines LogScan.initial signature, ?_⟩
  rw [hscan.positions signature rfl .initial (.initial hlines)]
  rw [← Nat.zero_add 0, Transcript.openedBefore_one, List.map_map]
  congr 1
  apply List.map_id''
  intro n
  exact Nat.add_sub_cancel n 1

theorem position_true_iff {settings : ObserverSettings Pubkey}
    (hprogram : IsProgramId settings.programId) {transcript : Transcript}
    (hwf : transcript.WellFormed 1)
    (hquiet : transcript.MessagesWithin settings.programId Transcript.QuietMessage)
    (hlines : (transcript.lines 1).length < 2 ^ 31) {signature : String} {i : Nat} {id : EventId}
    {line : Text}
    (h : (LogScan.initial.dataLines settings.programId signature (transcript.lines 1))[i]?
      = some (id, line)) :
    (transcript.ownPositions settings.programId)[i]? = some id.position ↔
      (transcript.imitationsBefore settings.programId false 0)[i]? = some 0 := by
  obtain ⟨htexts, hpositions⟩ := dataLines_transcript hprogram hwf hquiet hlines signature
  have hline : (transcript.ownData settings.programId false)[i]? = some line := by
    rw [← htexts, List.getElem?_map, h, Option.map_some]
  have hposition : (numbered [] (List.zipWith (· + ·) (transcript.ownIndexes settings.programId 0)
      (transcript.imitationsBefore settings.programId false 0)))[i]? = some id.position := by
    rw [← hpositions, List.getElem?_map, h, Option.map_some]
  obtain ⟨hlength, -⟩ := List.getElem?_eq_some_iff.mp hline
  have hindexes := List.getElem?_eq_getElem
    (show i < (transcript.ownIndexes settings.programId 0).length by
      rwa [Transcript.length_ownIndexes])
  have himitations := List.getElem?_eq_getElem
    (show i < (transcript.imitationsBefore settings.programId false 0).length by
      rwa [Transcript.length_imitationsBefore])
  obtain ⟨-, hsorted⟩ := transcript.imitationsBefore_bounds settings.programId false 0
  rw [← hposition, Transcript.ownPositions, eq_comm, numbered_eq_iff hsorted hindexes himitations,
    himitations, Option.some.injEq]

/--
The positions are the true ones exactly if no event comes after an imitation. The messages in the
invocations of the program and below them are assumed to be quiet, as in
`extract_events_attributes`.
-/
theorem event_positions_true_iff (settings : ObserverSettings Pubkey)
    (hprogram : IsProgramId settings.programId) (transcript : Transcript)
    (hwf : transcript.WellFormed 1)
    (hquiet : transcript.MessagesWithin settings.programId Transcript.QuietMessage)
    (hlines : (transcript.lines 1).length < 2 ^ 31) (signature : String) (slot : UInt64)
    (blockTime : Option Int64) :
    TruePositions settings transcript signature slot blockTime ↔
      NoImitationBeforeEvent settings transcript := by
  obtain ⟨htexts, -⟩ := dataLines_transcript hprogram hwf hquiet hlines signature
  constructor
  . intro htrue i line event hline hdecode
    rw [← htexts, List.getElem?_map, Option.map_eq_some_iff] at hline
    obtain ⟨⟨id, _⟩, hdata, rfl⟩ := hline
    rw [← position_true_iff hprogram hwf hquiet hlines hdata]
    exact htrue i ⟨id, slot, blockTime, event⟩
      (extractEvents_getElem?.mpr ⟨id, _, event, hdata, hdecode, rfl⟩)
  . intro hnone i observed hobserved
    obtain ⟨id, line, event, hdata, hdecode, rfl⟩ := extractEvents_getElem?.mp hobserved
    rw [position_true_iff hprogram hwf hquiet hlines hdata]
    apply hnone i line event _ hdecode
    rw [← htexts, List.getElem?_map, hdata, Option.map_some]

end IronVault.Observer

namespace IronVault.Scenario

open Observer

def imitating : Transcript :=
  -- The message comes before the only instruction of the transaction reaches the program.
  .invocation "Mu1tisig".toList
    (.message "x invoke [1]".toList <|
      .invocation programId
        (.message "Instruction: PauseVault".toList <|
          .data [eventField (vaultPauseUpdatedLine true)] .done)
        (some (5, 100)) .done)
    none .done

theorem imitating_wellFormed : imitating.WellFormed 1 :=
  ⟨isProgramId_multisig, by omega,
    ⟨isProgramId_programId, by omega, ⟨isBase64_pauseField true, trivial⟩, trivial⟩, trivial⟩

theorem imitating_quiet : imitating.MessagesWithin settings.programId Transcript.QuietMessage := by
  refine ⟨?_, trivial⟩
  rw [if_neg multisig_ne_programId]
  refine ⟨?_, trivial⟩
  rw [if_pos (show programId = settings.programId from rfl)]
  exact ⟨quietMessage_pauseVault, trivial⟩

theorem hostile_noImitation : NoImitationBeforeEvent settings hostile := by
  intro i line event hline _
  rw [hostile_ownData] at hline
  have himitations : hostile.imitationsBefore settings.programId false 0 = [0] := by decide +kernel
  rw [himitations]
  cases i with
  | zero => rfl
  | succ i => simp at hline

end IronVault.Scenario

namespace IronVault.Observer

open Scenario

theorem event_positions_true_iff_hostile : TruePositions settings hostile "signature" 1 none := by
  have hlength : (hostile.lines 1).length = 10 := rfl
  have hiff := event_positions_true_iff settings isProgramId_programId hostile hostile_wellFormed
    hostile_quiet (by omega) "signature" 1 none
  rw [hiff]
  exact hostile_noImitation

theorem event_position_moved :
    IsProgramId settings.programId ∧ imitating.WellFormed 1 ∧
      imitating.MessagesWithin settings.programId Transcript.QuietMessage ∧
      (imitating.lines 1).length = 8 ∧ ¬ TruePositions settings imitating "signature" 1 none := by
  refine ⟨isProgramId_programId, imitating_wellFormed, imitating_quiet, rfl, ?_⟩
  intro htrue
  have hdata : (LogScan.initial.dataLines settings.programId "signature" (imitating.lines 1))[0]?
      = some (⟨"signature", 1, 0⟩, vaultPauseUpdatedLine true) := by decide +kernel
  have hposition := htrue 0 ⟨⟨"signature", 1, 0⟩, 1, none, vaultPauseUpdated true⟩
    (extractEvents_getElem?.mpr ⟨_, _, _, hdata, decodeData_pauseLine, rfl⟩)
  have hown : (imitating.ownPositions settings.programId)[0]? = some (0, 0) := by decide +kernel
  rw [hown] at hposition
  simp [EventId.position] at hposition

end IronVault.Observer
