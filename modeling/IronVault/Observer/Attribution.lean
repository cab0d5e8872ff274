import IronVault.Observer.Lemmas.Logs
import IronVault.Observer.Lemmas.Transcript
import IronVault.Observer.ReadModel

/-!
This module contains that the observer attributes data lines to the right program. Outside of the
invocations of the program a message can make the stack wrong in every way but one: it never puts the
program on it. Inside of them, where messages are assumed to be quiet, the stack is right.
-/

namespace IronVault.Observer

open Text

variable {Pubkey : Type}

section Scan

variable (programId : Text)

def readLine (stack : List Text) (log : Text) : List Text × Bool :=
  match parseInvoke log with
  | some (program, depth) => (if depth = 1 then [program] else program :: stack, false)
  | none =>
    if endsInvocation log then
      (stack.tail, false)
    else
      (stack, stack.head? = some programId && isProgramData log)

/--
`Scans stack logs texts stack'` means that the lines lead from one stack to the other, and that
`texts` are the lines that are attributed to `programId` on the way.
-/
inductive Scans : List Text → List Text → List Text → List Text → Prop where
  | nil {stack : List Text} : Scans stack [] [] stack
  | cons {stack stack' final logs texts : List Text} {log : Text} {own : Bool}
      (hline : readLine programId stack log = (stack', own)) (h : Scans stack' logs texts final) :
      Scans stack (log :: logs) ((if own then [log] else []) ++ texts) final

variable {programId} {stack stack' final logs logs' texts texts' : List Text} {log : Text}

/--
The number of outermost invocations that a line opens.
-/
def outermost (log : Text) : Nat :=
  match parseInvoke log with
  | some (_, depth) => if depth = 1 then 1 else 0
  | none => 0

/--
The scan with the number of outermost invocations that were opened before it, and before each of the
lines `texts`.
-/
inductive ScansAt (programId : Text) :
    List Text → Nat → List Text → List Nat → List Text → List Text → Nat → Prop where
  | nil {stack : List Text} {count : Nat} : ScansAt programId stack count [] [] [] stack count
  | cons {stack stack' final logs texts : List Text} {log : Text} {own : Bool} {count last : Nat}
      {counts : List Nat} (hline : readLine programId stack log = (stack', own))
      (h : ScansAt programId stack' (count + outermost log) logs counts texts final last) :
      ScansAt programId stack count (log :: logs) ((if own then [count] else []) ++ counts)
        ((if own then [log] else []) ++ texts) final last

section

variable {count next last : Nat} {counts counts' : List Nat}

theorem ScansAt.scans (h : ScansAt programId stack count logs counts texts final last) :
    Scans programId stack logs texts final := by
  induction h with
  | nil => exact .nil
  | cons hline _ ih => exact .cons hline ih

theorem ScansAt.append (h : ScansAt programId stack count logs counts texts stack' next)
    (h' : ScansAt programId stack' next logs' counts' texts' final last) :
    ScansAt programId stack count (logs ++ logs') (counts ++ counts') (texts ++ texts') final
      last := by
  induction h with
  | nil => exact h'
  | cons hline _ ih =>
    rw [List.append_assoc, List.append_assoc]
    exact .cons hline (ih h')

end

theorem LogScan.line_eq_readLine (programId : Text) (scan : LogScan) (signature : String)
    (log : Text) :
    (scan.line programId signature log).1.stack = (readLine programId scan.stack log).1 ∧
      (scan.line programId signature log).2.isSome = (readLine programId scan.stack log).2 := by
  unfold LogScan.line readLine
  cases parseInvoke log with
  | some opened =>
    dsimp only
    split <;> simp
  | none =>
    dsimp only
    split
    . simp
    . split
      . next hdata => simp [LogScan.countEvent, hdata]
      . next hdata => simp [hdata]

theorem Scans.dataLines (scan : LogScan) (signature : String)
    (h : Scans programId scan.stack logs texts final) :
    (scan.dataLines programId signature logs).map Prod.snd = texts := by
  generalize hstack : scan.stack = stack at h
  induction h generalizing scan with
  | nil => rfl
  | @cons stack stack' final logs texts log own hline _ ih =>
    obtain ⟨hnext, hown⟩ := scan.line_eq_readLine programId signature log
    rw [hstack, hline] at hnext hown
    dsimp only at hnext hown
    unfold LogScan.dataLines
    generalize scan.line programId signature log = next at *
    obtain ⟨next, id⟩ := next
    cases id with
    | none =>
      rw [← hown]
      exact ih next hnext
    | some id =>
      rw [← hown]
      exact congrArg (log :: ·) (ih next hnext)

end Scan

section Line

variable {programId program : Text} {stack : List Text}

theorem readLine_quiet (programId : Text) (stack : List Text) {log : Text} (h : Quiet log) :
    readLine programId stack log
      = (stack, stack.head? = some programId && isProgramData log) := by
  simp [readLine, h.parseInvoke, h.endsInvocation]

theorem not_own_of_not_mem (hstack : programId ∉ stack) (isData : Bool) :
    (stack.head? = some programId && isData) = false := by
  have hhead : stack.head? ≠ some programId := by
    intro hhead
    exact hstack (List.mem_of_head? hhead)
  rw [decide_eq_false hhead, Bool.false_and]

theorem ofNat_eq_one {depth : Nat} (hdepth : depth < 2 ^ 32) :
    UInt32.ofNat depth = 1 ↔ depth = 1 := by
  rw [← UInt32.toNat_inj, UInt32.toNat_ofNat_of_lt' hdepth]
  rfl

theorem readLine_invokeLine (h : IsProgramId program) {depth : Nat} (hdepth : depth < 2 ^ 32) :
    readLine programId stack (invokeLine program depth)
      = (if depth = 1 then [program] else program :: stack, false) := by
  simp only [readLine, parseInvoke_invokeLine h hdepth, ofNat_eq_one hdepth]

theorem readLine_successLine (h : IsProgramId program) :
    readLine programId stack (successLine program) = (stack.tail, false) := by
  simp [readLine, parseInvoke_successLine h, endsInvocation_successLine]

theorem outermost_quiet {log : Text} (h : Quiet log) : outermost log = 0 := by
  simp [outermost, h.parseInvoke]

theorem outermost_invokeLine (h : IsProgramId program) {depth : Nat} (hdepth : depth < 2 ^ 32) :
    outermost (invokeLine program depth) = if depth = 1 then 1 else 0 := by
  simp only [outermost, parseInvoke_invokeLine h hdepth, ofNat_eq_one hdepth]

theorem outermost_successLine (h : IsProgramId program) : outermost (successLine program) = 0 := by
  simp [outermost, parseInvoke_successLine h]

theorem ScansAt.cons_quiet {logs texts final : List Text} {log : Text} {own : Bool}
    {counts : List Nat} {count last : Nat} (h : Quiet log)
    (hown : (stack.head? = some programId && isProgramData log) = own)
    (hrest : ScansAt programId stack count logs counts texts final last) :
    ScansAt programId stack count (log :: logs) ((if own then [count] else []) ++ counts)
      ((if own then [log] else []) ++ texts) final last := by
  have hline := readLine_quiet programId stack h
  rw [hown] at hline
  apply ScansAt.cons hline
  rw [outermost_quiet h]
  exact hrest

theorem scansAt_consumed (count : Nat) (h : IsProgramId program) (consumed : Option (Nat × Nat)) :
    ScansAt programId stack count
      (consumed.map fun (units, budget) => consumedLine program units budget).toList [] [] stack
      count := by
  cases consumed with
  | none => exact .nil
  | some consumed =>
    obtain ⟨hquiet, hdata⟩ := quiet_consumedLine h consumed.1 consumed.2
    have hown : (stack.head? = some programId &&
        isProgramData (consumedLine program consumed.1 consumed.2)) = false := by
      rw [hdata, Bool.and_false]
    exact .cons_quiet hquiet hown .nil

theorem readLine_messageLine (text : Text) (hprogram : IsProgramId programId)
    (hstack : programId ∉ stack) :
    ∃ stack', readLine programId stack (messageLine text) = (stack', false) ∧ programId ∉ stack' := by
  -- The name that a message pushes starts with `log:`, which no program id does.
  unfold readLine
  split
  . next opened depth hparse =>
    have hne := ne_of_parseInvoke_messageLine hparse hprogram
    split
    . exact ⟨_, rfl, by simpa using hne.symm⟩
    . exact ⟨_, rfl, by simp [hne.symm, hstack]⟩
  . split
    . exact ⟨_, rfl, fun hmem => hstack (List.mem_of_mem_tail hmem)⟩
    . exact ⟨_, by rw [isProgramData_messageLine, Bool.and_false], hstack⟩

end Line

namespace Transcript

variable {programId : Text} {stack : List Text} {depth : Nat} {transcript : Transcript}

def QuietMessage (text : Text) : Prop :=
  Quiet (messageLine text)

/--
The number of messages that read like the line of an outermost invocation.
-/
def imitations : Transcript → Nat
  | done => 0
  | message text rest => outermost (messageLine text) + rest.imitations
  | data _ rest => rest.imitations
  | returned _ _ rest => rest.imitations
  | invocation _ body _ rest => body.imitations + rest.imitations

/--
For every data line in `ownData` the number of outermost invocations that were opened before it, or
that a message pretended to open, when `count` were opened before the body.
-/
def openedBefore (programId : Text) (depth : Nat) (own : Bool) (count : Nat) : Transcript → List Nat
  | done => []
  | message text rest =>
    rest.openedBefore programId depth own (count + outermost (messageLine text))
  | data _ rest =>
    (if own then [count] else []) ++ rest.openedBefore programId depth own count
  | returned _ _ rest => rest.openedBefore programId depth own count
  | invocation program body _ rest =>
    body.openedBefore programId (depth + 1) (program = programId)
        (count + if depth = 1 then 1 else 0) ++
      rest.openedBefore programId depth own (count + (if depth = 1 then 1 else 0) + body.imitations)

def opened (depth : Nat) : Transcript → Nat
  | done => 0
  | message text rest => outermost (messageLine text) + rest.opened depth
  | data _ rest => rest.opened depth
  | returned _ _ rest => rest.opened depth
  | invocation _ body _ rest =>
    (if depth = 1 then 1 else 0) + body.imitations + rest.opened depth

theorem opened_eq_imitations (hdepth : 1 < depth) (transcript : Transcript) :
    transcript.opened depth = transcript.imitations := by
  induction transcript with
  | done => rfl
  | message text rest ih => rw [opened, imitations, ih]
  | data fields rest ih => exact ih
  | returned program field rest ih => exact ih
  | invocation program body consumed rest _ ih =>
    rw [opened, imitations, ih, if_neg (by omega), Nat.zero_add]

variable {count : Nat}

theorem scansAt_invocation {callee : Text} {body rest : Transcript} {consumed : Option (Nat × Nat)}
    {texts texts' inner final : List Text} {counts counts' : List Nat} {next last : Nat}
    (hcallee : IsProgramId callee) (hdepth : depth < 2 ^ 32)
    (hbody : ScansAt programId (if depth = 1 then [callee] else callee :: stack)
      (count + if depth = 1 then 1 else 0) (body.lines (depth + 1)) counts texts inner next)
    (hrest : ScansAt programId inner.tail next (rest.lines depth) counts' texts' final last) :
    ScansAt programId stack count ((invocation callee body consumed rest).lines depth)
      (counts ++ counts') (texts ++ texts') final last := by
  have hclose : ScansAt programId inner next (successLine callee :: rest.lines depth) counts' texts'
      final last := by
    apply ScansAt.cons (readLine_successLine hcallee)
    rw [outermost_successLine hcallee]
    exact hrest
  apply ScansAt.cons (readLine_invokeLine hcallee hdepth)
  rw [outermost_invokeLine hcallee hdepth]
  exact hbody.append ((scansAt_consumed next hcallee consumed).append hclose)

theorem scansAt_of_messages {program : Text} (hwf : transcript.WellFormed depth) (hdepth : 1 < depth)
    (hquiet : transcript.Messages QuietMessage) :
    ScansAt programId (program :: stack) count (transcript.lines depth)
      (transcript.openedBefore programId depth (program = programId) count)
      (transcript.ownData programId (program = programId)) (program :: stack)
      (count + transcript.opened depth) := by
  -- Without misleading messages the top of the stack is the program that runs.
  induction transcript generalizing depth program stack count with
  | done => exact .nil
  | message text rest ih =>
    have hown : ((program :: stack).head? = some programId && isProgramData (messageLine text))
        = false := by
      rw [isProgramData_messageLine, Bool.and_false]
    rw [openedBefore, opened, outermost_quiet hquiet.1, Nat.zero_add, Nat.add_zero]
    exact .cons_quiet hquiet.1 hown (ih hwf hdepth hquiet.2)
  | data fields rest ih =>
    obtain ⟨hquietLine, hdata⟩ := quiet_dataLine hwf.1
    have hown : ((program :: stack).head? = some programId && isProgramData (dataLine fields))
        = decide (program = programId) := by
      rw [hdata, Bool.and_true]
      simp only [List.head?_cons, Option.some.injEq]
    exact .cons_quiet hquietLine hown (ih hwf.2 hdepth hquiet)
  | returned returning field rest ih =>
    obtain ⟨hprogram, hfield, hwf⟩ := hwf
    obtain ⟨hquietLine, hdata⟩ := quiet_returnLine hprogram hfield
    have hown : ((program :: stack).head? = some programId &&
        isProgramData (returnLine returning field)) = false := by
      rw [hdata, Bool.and_false]
    exact .cons_quiet hquietLine hown (ih hwf hdepth hquiet)
  | invocation callee body consumed rest ihbody ihrest =>
    obtain ⟨hcallee, hlt, hbody, hrest⟩ := hwf
    have hinner : body.opened (depth + 1) = body.imitations := opened_eq_imitations (by omega) body
    rw [opened, ← Nat.add_assoc, ← Nat.add_assoc, ← hinner]
    apply scansAt_invocation hcallee hlt
    . rw [if_neg (by omega)]
      exact ihbody hbody (by omega) hquiet.1
    . rw [← hinner]
      exact ihrest hrest hdepth hquiet.2

theorem scansAt_of_messagesWithin (count : Nat) (hprogram : IsProgramId programId)
    (hwf : transcript.WellFormed depth) (hdepth : 1 ≤ depth)
    (hquiet : transcript.MessagesWithin programId QuietMessage) (hstack : programId ∉ stack) :
    ∃ final, programId ∉ final ∧
      ScansAt programId stack count (transcript.lines depth)
        (transcript.openedBefore programId depth false count) (transcript.ownData programId false)
        final (count + transcript.opened depth) := by
  -- Outside of the invocations of the program the stack is arbitrary, but the program is not on it.
  induction transcript generalizing depth stack count with
  | done => exact ⟨stack, hstack, .nil⟩
  | message text rest ih =>
    obtain ⟨stack', hline, hstack'⟩ := readLine_messageLine text hprogram hstack
    obtain ⟨final, hfinal, hscan⟩ := ih _ hwf hdepth hquiet hstack'
    rw [opened, ← Nat.add_assoc]
    exact ⟨final, hfinal, .cons hline hscan⟩
  | data fields rest ih =>
    obtain ⟨final, hfinal, hscan⟩ := ih _ hwf.2 hdepth hquiet hstack
    exact ⟨final, hfinal, .cons_quiet (quiet_dataLine hwf.1).1 (not_own_of_not_mem hstack _) hscan⟩
  | returned returning field rest ih =>
    obtain ⟨hreturning, hfield, hwf⟩ := hwf
    have hquietLine := (quiet_returnLine hreturning hfield).1
    obtain ⟨final, hfinal, hscan⟩ := ih _ hwf hdepth hquiet hstack
    exact ⟨final, hfinal, .cons_quiet hquietLine (not_own_of_not_mem hstack _) hscan⟩
  | invocation callee body consumed rest ihbody ihrest =>
    obtain ⟨hcallee, hlt, hbody, hrest⟩ := hwf
    obtain ⟨hquietBody, hquietRest⟩ := hquiet
    have hinner : body.opened (depth + 1) = body.imitations := opened_eq_imitations (by omega) body
    rw [opened, ← Nat.add_assoc, ← Nat.add_assoc, openedBefore, ← hinner]
    have hpushed : (if depth = 1 then [callee] else callee :: stack)
        = callee :: (if depth = 1 then [] else stack) := by
      split <;> rfl
    have hbelow : programId ∉ if depth = 1 then [] else stack := by
      split
      . simp
      . exact hstack
    by_cases hown : callee = programId
    . rw [if_pos hown] at hquietBody
      obtain ⟨final, hfinal, hscan⟩ := ihrest _ hrest hdepth hquietRest hbelow
      have hscanBody : ScansAt programId (if depth = 1 then [callee] else callee :: stack)
          (count + if depth = 1 then 1 else 0) (body.lines (depth + 1))
          (body.openedBefore programId (depth + 1) (callee = programId)
            (count + if depth = 1 then 1 else 0))
          (body.ownData programId (callee = programId)) (callee :: if depth = 1 then [] else stack)
          ((count + if depth = 1 then 1 else 0) + body.opened (depth + 1)) := by
        rw [hpushed]
        exact scansAt_of_messages hbody (by omega) hquietBody
      exact ⟨final, hfinal, scansAt_invocation hcallee hlt hscanBody hscan⟩
    . rw [if_neg hown] at hquietBody
      have hpush : programId ∉ callee :: if depth = 1 then [] else stack := by
        simp [Ne.symm hown, hbelow]
      obtain ⟨inner, hinnerStack, hscanBody⟩ := ihbody _ hbody (by omega) hquietBody hpush
      obtain ⟨final, hfinal, hscan⟩ := ihrest _ hrest hdepth hquietRest
        (fun hmem => hinnerStack (List.mem_of_mem_tail hmem))
      refine ⟨final, hfinal, scansAt_invocation hcallee hlt ?_ hscan⟩
      rw [hpushed, decide_eq_false hown]
      exact hscanBody

end Transcript

def ObserverSettings.decodeData (settings : ObserverSettings Pubkey) (line : Text) :
    Except DecodeError (IronVaultEvent Pubkey) := do
  let event ← settings.decodeProgramData line
  fetch event .noEvent

theorem extractEvents_eq (settings : ObserverSettings Pubkey) (signature : String) (slot : UInt64)
    (blockTime : Option Int64) (logs : List Text) :
    settings.extractEvents signature slot blockTime logs
      = (LogScan.initial.dataLines settings.programId signature logs).map fun line =>
        (settings.decodeData line.2).map fun event => ⟨line.1, slot, blockTime, event⟩ := by
  unfold ObserverSettings.extractEvents ObserverSettings.decodeData
  apply List.map_congr_left
  rintro ⟨id, line⟩ _
  dsimp only
  cases settings.decodeProgramData line with
  | error e => rfl
  | ok event => cases event <;> rfl

def ObservedEvent.attribution (observed : ObservedEvent Pubkey) :
    String × UInt64 × Option Int64 × IronVaultEvent Pubkey :=
  (observed.id.transactionSignature, observed.slot, observed.blockTime, observed.event)

theorem extract_events_attributes (settings : ObserverSettings Pubkey)
    (hprogram : IsProgramId settings.programId) (transcript : Transcript)
    (hwf : transcript.WellFormed 1)
    (hquiet : transcript.MessagesWithin settings.programId Transcript.QuietMessage)
    (signature : String) (slot : UInt64) (blockTime : Option Int64) :
    (settings.extractEvents signature slot blockTime (transcript.lines 1)).map
        (Except.map ObservedEvent.attribution)
      = (transcript.ownData settings.programId false).map fun line =>
        (settings.decodeData line).map fun event => (signature, slot, blockTime, event) := by
  obtain ⟨final, -, hscan⟩ := Transcript.scansAt_of_messagesWithin 0 hprogram hwf
    (Nat.le_refl 1) hquiet (List.not_mem_nil (a := settings.programId))
  rw [← hscan.scans.dataLines LogScan.initial signature, extractEvents_eq, List.map_map, List.map_map]
  apply List.map_congr_left
  intro line hmem
  have hsignature := LogScan.dataLines_signature hmem
  dsimp only [Function.comp_apply]
  cases settings.decodeData line.2 with
  | error e => rfl
  | ok event =>
    rw [← hsignature]
    rfl

/--
A text that, taken by itself, does not look like the end or the beginning of an invocation.
-/
structure PlainText (text : Text) : Prop where
  not_success : ¬ " success".toList <:+ text
  not_failed : ¬ " failed:".toList <:+: text
  not_invoke (n : Nat) : ¬ " invoke [".toList ++ Nat.toDigits 10 n ++ "]".toList <:+: text

end IronVault.Observer

namespace IronVault.Scenario

open Observer

def eventField (line : Text) : Text :=
  line.drop "Program data: ".length

def hostile : Transcript :=
  .invocation "Mu1tisig".toList
    (.message "done, success".toList <| .message (programId ++ " invoke [2]".toList) <|
      .invocation programId
        (.message "Instruction: PauseVault".toList <|
          .data [eventField (vaultPauseUpdatedLine true)] .done)
        (some (5, 100)) <|
      .data [eventField (vaultPauseUpdatedLine false)] .done)
    none .done

def confusing : Transcript :=
  .invocation programId
    (.message "success".toList <| .data [eventField (vaultPauseUpdatedLine true)] .done) none .done

theorem isProgramId_of_all {program : Text} (h : program.all (base58.contains ·) = true) :
    IsProgramId program := by
  simpa only [IsProgramId, List.all_eq_true, List.contains_iff_mem] using h

theorem isProgramId_programId : IsProgramId programId := by
  apply isProgramId_of_all
  rw [show programId = _ from String.toList_ofList, show base58 = _ from String.toList_ofList]
  decide +kernel

theorem isProgramId_multisig : IsProgramId "Mu1tisig".toList := by
  apply isProgramId_of_all
  rw [String.toList_ofList, show base58 = _ from String.toList_ofList]
  decide +kernel

theorem multisig_ne_programId : "Mu1tisig".toList ≠ settings.programId := by
  decide

theorem quietMessage_pauseVault : Transcript.QuietMessage "Instruction: PauseVault".toList :=
  ⟨by decide +kernel, by decide +kernel⟩

theorem base64_eq : Observer.base64 = (List.range 64).map base64Digit ++ ['='] :=
  String.toList_ofList.trans (by decide)

theorem base64Digit_mem {n : Nat} (h : n < 64) : base64Digit n ∈ Observer.base64 := by
  rw [base64_eq]
  exact List.mem_append_left _ (List.mem_map_of_mem (List.mem_range.mpr h))

theorem isBase64_base64 {bytes : List Nat} (h : ∀ byte ∈ bytes, byte < 256) :
    IsBase64 (base64 bytes) := by
  have hpad : '=' ∈ Observer.base64 := by simp [base64_eq]
  fun_induction base64 bytes with
  | case1 a b c bytes ih =>
    have hrest := ih fun byte hbyte => h byte (by simp [hbyte])
    have ha := h a (by simp)
    have hb := h b (by simp)
    have hc := h c (by simp)
    constructor
    . have hlength := hrest.length
      simp only [List.length_cons]
      omega
    . simp only [List.forall_mem_cons]
      exact ⟨base64Digit_mem (by omega), base64Digit_mem (by omega), base64Digit_mem (by omega),
        base64Digit_mem (by omega), hrest.chars⟩
  | case2 a b =>
    have ha := h a (by simp)
    have hb := h b (by simp)
    refine ⟨by simp, ?_⟩
    simp only [List.forall_mem_cons]
    exact ⟨base64Digit_mem (by omega), base64Digit_mem (by omega), base64Digit_mem (by omega), hpad,
      by simp⟩
  | case3 a =>
    have ha := h a (by simp)
    refine ⟨by simp, ?_⟩
    simp only [List.forall_mem_cons]
    exact ⟨base64Digit_mem (by omega), base64Digit_mem (by omega), hpad, hpad, by simp⟩
  | case4 => exact ⟨rfl, by simp⟩

theorem eventField_dataLine (discriminator fields : List Nat) :
    eventField (dataLine discriminator fields) = base64 (discriminator ++ [1, 0] ++ fields) :=
  List.drop_left' String.length_toList

theorem isBase64_pauseField (paused : Bool) :
    ∀ field ∈ [eventField (vaultPauseUpdatedLine paused)], IsBase64 field := by
  intro field hmem
  rw [List.mem_singleton.mp hmem]
  unfold vaultPauseUpdatedLine
  rw [eventField_dataLine]
  apply isBase64_base64
  cases paused <;> decide

theorem dataLine_pauseField (paused : Bool) :
    Observer.dataLine [eventField (vaultPauseUpdatedLine paused)] = vaultPauseUpdatedLine paused := by
  unfold Observer.dataLine vaultPauseUpdatedLine
  rw [List.intercalate_singleton, eventField_dataLine]
  rfl

theorem decodeData_pauseLine :
    settings.decodeData (vaultPauseUpdatedLine true) = .ok (vaultPauseUpdated true) := by
  unfold ObserverSettings.decodeData settings
  dsimp only
  rw [if_neg (by decide +kernel), if_neg (by decide +kernel), if_pos rfl]
  rfl

theorem hostile_wellFormed : hostile.WellFormed 1 :=
  ⟨isProgramId_multisig, by omega,
    ⟨isProgramId_programId, by omega, ⟨isBase64_pauseField true, trivial⟩, isBase64_pauseField false,
      trivial⟩, trivial⟩

theorem hostile_quiet : hostile.MessagesWithin settings.programId Transcript.QuietMessage := by
  refine ⟨?_, trivial⟩
  rw [if_neg multisig_ne_programId]
  refine ⟨?_, trivial⟩
  rw [if_pos (show programId = settings.programId from rfl)]
  exact ⟨quietMessage_pauseVault, trivial⟩

theorem hostile_ownData :
    hostile.ownData settings.programId false = [vaultPauseUpdatedLine true] := by
  rw [← dataLine_pauseField]
  rfl

theorem confusing_ownData :
    confusing.ownData settings.programId false = [vaultPauseUpdatedLine true] := by
  rw [← dataLine_pauseField]
  rfl

theorem confusing_plain : confusing.MessagesWithin settings.programId PlainText := by
  refine ⟨?_, trivial⟩
  rw [if_pos (show programId = settings.programId from rfl)]
  refine ⟨⟨by decide +kernel, by decide +kernel, ?_⟩, trivial⟩
  intro n hinfix
  have hmem : '[' ∈ "success".toList := hinfix.subset (by simp)
  exact absurd hmem (by decide)

end IronVault.Scenario

namespace IronVault.Observer

open Scenario

theorem extract_events_attributes_hostile :
    (settings.extractEvents "signature" 1 none (hostile.lines 1)).map
        (Except.map ObservedEvent.attribution)
      = [.ok ("signature", 1, none, vaultPauseUpdated true)] := by
  rw [extract_events_attributes settings isProgramId_programId hostile hostile_wellFormed
    hostile_quiet, hostile_ownData, List.map_singleton, decodeData_pauseLine]
  rfl

theorem extract_events_loses_data :
    IsProgramId settings.programId ∧ confusing.WellFormed 1 ∧
      confusing.MessagesWithin settings.programId PlainText ∧
      confusing.ownData settings.programId false = [vaultPauseUpdatedLine true] ∧
      (settings.extractEvents "signature" 1 none (confusing.lines 1)).length = 0 := by
  refine ⟨isProgramId_programId, ?_, confusing_plain, confusing_ownData, by decide +kernel⟩
  exact ⟨isProgramId_programId, by omega, ⟨isBase64_pauseField true, trivial⟩, trivial⟩

end IronVault.Observer
