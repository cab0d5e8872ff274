import IronVault.Observer.Impl.Logs

/-!
This module contains the log of a transaction as the Solana runtime writes it: the lines of every
invocation stand between a line that opens it and one that closes it, with the lines of the
invocations it makes in between.
-/

namespace IronVault.Observer

open Text

def base58 : Text :=
  "123456789ABCDEFGHJKLMNPQRSTUVWXYZabcdefghijkmnopqrstuvwxyz".toList

def base64 : Text :=
  "ABCDEFGHIJKLMNOPQRSTUVWXYZabcdefghijklmnopqrstuvwxyz0123456789+/=".toList

def IsProgramId (program : Text) : Prop :=
  ∀ c ∈ program, c ∈ base58

instance (program : Text) : Decidable (IsProgramId program) :=
  decidable_of_iff (program.all (base58.contains ·)) (by simp [IsProgramId])

structure IsBase64 (field : Text) : Prop where
  length : field.length % 4 = 0
  chars : ∀ c ∈ field, c ∈ base64

instance (field : Text) : Decidable (IsBase64 field) :=
  decidable_of_iff (field.length % 4 = 0 ∧ field.all (base64.contains ·))
    ⟨fun h => ⟨h.1, by simpa using h.2⟩, fun h => ⟨h.length, by simpa using h.chars⟩⟩

def messageLine (text : Text) : Text :=
  "Program log: ".toList ++ text

def dataLine (fields : List Text) : Text :=
  "Program data: ".toList ++ [' '].intercalate fields

def returnLine (program field : Text) : Text :=
  "Program return: ".toList ++ (program ++ ' ' :: field)

def invokeLine (program : Text) (depth : Nat) : Text :=
  "Program ".toList ++ (program ++ (" invoke [".toList ++ (Nat.toDigits 10 depth ++ "]".toList)))

def consumedLine (program : Text) (units budget : Nat) : Text :=
  "Program ".toList ++ (program ++ (" consumed ".toList ++ (Nat.toDigits 10 units ++
    (" of ".toList ++ (Nat.toDigits 10 budget ++ " compute units".toList)))))

def successLine (program : Text) : Text :=
  "Program ".toList ++ (program ++ " success".toList)

/--
The body of an invocation. The body of a transaction has nothing but invocations in it. Only programs
that are metered log what they consumed.
-/
inductive Transcript where
  | done
  | message (text : Text) (rest : Transcript)
  | data (fields : List Text) (rest : Transcript)
  | returned (program field : Text) (rest : Transcript)
  | invocation (program : Text) (body : Transcript) (consumed : Option (Nat × Nat))
      (rest : Transcript)

namespace Transcript

def lines (depth : Nat) : Transcript → List Text
  | done => []
  | message text rest => messageLine text :: rest.lines depth
  | data fields rest => dataLine fields :: rest.lines depth
  | returned program field rest => returnLine program field :: rest.lines depth
  | invocation program body consumed rest =>
    [invokeLine program depth] ++ (body.lines (depth + 1) ++
      ((consumed.map fun (units, budget) => consumedLine program units budget).toList ++
        ([successLine program] ++ rest.lines depth)))

def WellFormed (depth : Nat) : Transcript → Prop
  -- What the runtime guarantees, whatever the programs do.
  | done => True
  | message _ rest => rest.WellFormed depth
  | data fields rest => (∀ field ∈ fields, IsBase64 field) ∧ rest.WellFormed depth
  | returned program field rest =>
    IsProgramId program ∧ IsBase64 field ∧ rest.WellFormed depth
  | invocation program body _ rest =>
    IsProgramId program ∧ depth < 2 ^ 32 ∧ body.WellFormed (depth + 1) ∧ rest.WellFormed depth

/--
The data lines that the invocations of `programId` log themselves. `own` says whether the body is
the one of such an invocation.
-/
def ownData (programId : Text) (own : Bool) : Transcript → List Text
  | done => []
  | message _ rest => rest.ownData programId own
  | data fields rest =>
    (if own then [dataLine fields] else []) ++ rest.ownData programId own
  | returned _ _ rest => rest.ownData programId own
  | invocation program body _ rest =>
    body.ownData programId (program = programId) ++ rest.ownData programId own

def Messages (P : Text → Prop) : Transcript → Prop
  | done => True
  | message text rest => P text ∧ rest.Messages P
  | data _ rest => rest.Messages P
  | returned _ _ rest => rest.Messages P
  | invocation _ body _ rest => body.Messages P ∧ rest.Messages P

def MessagesWithin (programId : Text) (P : Text → Prop) : Transcript → Prop
  | done => True
  | message _ rest => rest.MessagesWithin programId P
  | data _ rest => rest.MessagesWithin programId P
  | returned _ _ rest => rest.MessagesWithin programId P
  | invocation program body _ rest =>
    (if program = programId then body.Messages P else body.MessagesWithin programId P) ∧
      rest.MessagesWithin programId P

end Transcript

end IronVault.Observer
