import IronVault.Util.Text
import IronVault.Observer.Basic

/-!
This module contains how the observer finds the events of a transaction in its log messages.
-/

namespace IronVault.Observer

open Text

variable {Pubkey : Type}

inductive DecodeError where
  | invalidBase64
  | shorterThanDiscriminator
  | invalidPayload (name : String)
  | unknownDiscriminator
  | noEvent

/--
What an observer runs with. Nothing depends on how a data line is decoded, so the decoder is left
open here.
-/
structure ObserverSettings (Pubkey : Type) where
  programId : Text
  decodeProgramData : Text → Except DecodeError (Option (IronVaultEvent Pubkey))

def parseInvoke (log : Text) : Option (Text × UInt32) := do
  let rest ← stripPrefix "Program ".toList log
  let (program, suffix) ← splitOnce " invoke [".toList rest
  let depth ← parseUInt32 (← stripSuffix "]".toList suffix)
  return (program, depth)

def endsInvocation (log : Text) : Bool :=
  "Program ".toList.isPrefixOf log &&
    (" success".toList.isSuffixOf log || (splitOnce " failed:".toList log).isSome)

def isProgramData (log : Text) : Bool :=
  "Program data: ".toList.isPrefixOf log

/--
The loop variables of `extract_events`. The innermost invocation is the head of `stack`.
-/
structure LogScan where
  stack : List Text
  instructionIndex : Int32
  eventIndexes : UInt32 → UInt32

namespace LogScan

def initial : LogScan where
  stack := []
  instructionIndex := -1
  eventIndexes _ := 0

def index (scan : LogScan) : UInt32 :=
  if scan.instructionIndex < 0 then 0 else scan.instructionIndex.toUInt32

def countEvent (scan : LogScan) : LogScan where
  stack := scan.stack
  instructionIndex := scan.instructionIndex
  eventIndexes :=
    Function.update scan.eventIndexes scan.index (scan.eventIndexes scan.index + 1)

def line (scan : LogScan) (programId : Text) (signature : String) (log : Text) :
    LogScan × Option EventId :=
  match parseInvoke log with
  | some (program, depth) =>
    if depth = 1 then
      ({ scan with stack := [program], instructionIndex := scan.instructionIndex + 1 }, none)
    else
      ({ scan with stack := program :: scan.stack }, none)
  | none =>
    if endsInvocation log then
      ({ scan with stack := scan.stack.tail }, none)
    else if scan.stack.head? = some programId && isProgramData log then
      (scan.countEvent, some ⟨signature, scan.index, scan.eventIndexes scan.index⟩)
    else
      (scan, none)

def dataLines (scan : LogScan) (programId : Text) (signature : String) :
    List Text → List (EventId × Text)
  | [] => []
  | log :: logs =>
    match scan.line programId signature log with
    | (scan, some id) => (id, log) :: scan.dataLines programId signature logs
    | (scan, none) => scan.dataLines programId signature logs

end LogScan

def ObserverSettings.extractEvents (settings : ObserverSettings Pubkey) (signature : String)
    (slot : UInt64) (blockTime : Option Int64) (logs : List Text) :
    List (Except DecodeError (ObservedEvent Pubkey)) :=
  (LogScan.initial.dataLines settings.programId signature logs).map fun (id, log) => do
    let event ← settings.decodeProgramData log
    let event ← fetch event .noEvent
    return { id, slot, blockTime, event }

def tryFromInt32 (value : Int32) : Option UInt32 :=
  -- The source converts with `u32::try_from`.
  if value < 0 then none else some value.toUInt32

/--
The body of the loop with everything in it that can panic, which is `none`: the conversion of the
index, and the two additions in a build that checks them.
-/
def LogScan.checkedLine (scan : LogScan) (programId : Text) (signature : String) (log : Text) :
    Option (LogScan × Option EventId) :=
  match parseInvoke log with
  | some (program, depth) =>
    if depth = 1 then do
      guard (scan.instructionIndex.toInt + 1 < 2 ^ 31)
      return ({ scan with stack := [program], instructionIndex := scan.instructionIndex + 1 }, none)
    else
      some ({ scan with stack := program :: scan.stack }, none)
  | none =>
    if endsInvocation log then
      some ({ scan with stack := scan.stack.tail }, none)
    else if scan.stack.head? = some programId && isProgramData log then do
      let index ← tryFromInt32 (max scan.instructionIndex 0)
      let eventIndex := scan.eventIndexes index
      guard (eventIndex.toNat + 1 < 2 ^ 32)
      return ({ scan with
        eventIndexes := Function.update scan.eventIndexes index (eventIndex + 1) },
        some ⟨signature, index, eventIndex⟩)
    else
      some (scan, none)

def LogScan.checkedDataLines (scan : LogScan) (programId : Text) (signature : String) :
    List Text → Option (List (EventId × Text))
  | [] => some []
  | log :: logs => do
    let (scan, id) ← scan.checkedLine programId signature log
    let lines ← scan.checkedDataLines programId signature logs
    match id with
    | some id => return (id, log) :: lines
    | none => return lines

end IronVault.Observer
