import IronVault.Util.Text
import IronVault.Client.Impl.Dispatch

/-!
This module contains the command line: how its arguments become options, and which method of the
client they call.
-/

namespace IronVault.Client.Cli

/-- The type `string | boolean`. -/
inductive OptionValue where
  | string (value : String)
  | boolean (value : Bool)
  deriving DecidableEq, Repr

/--
An object that is only read by name.
-/
abbrev Options : Type := String → Option OptionValue

structure CliInvocation where
  group : String
  action : String
  options : Options

-- What every object inherits, so that `in` finds it.
def objectPrototype : List String := [
  "__defineGetter__", "__defineSetter__", "__lookupGetter__", "__lookupSetter__", "__proto__",
  "constructor", "hasOwnProperty", "isPrototypeOf", "propertyIsEnumerable", "toLocaleString",
  "toString", "valueOf"
]

def Options.has (options : Options) (name : String) : Bool :=
  (options name).isSome || objectPrototype.contains name

def flagName (flag : String) : Option String :=
  (Text.stripPrefix "--".toList flag.toList).map String.ofList

def parseOptions (options : Options) : List String → Except Exception Options
  | [] => return options
  | [flag] =>
    match flagName flag with
    | none => throw (.error ("unexpected argument: " ++ flag))
    | some name =>
      if name = "json" then
        return Function.update options name (some (.boolean true))
      else
        throw (.error ("missing value for --" ++ name))
  | flag :: value :: rest =>
    match flagName flag with
    | none => throw (.error ("unexpected argument: " ++ flag))
    | some name =>
      if name = "json" then
        parseOptions (Function.update options name (some (.boolean true))) (value :: rest)
      else if value = "" ∨ (flagName value).isSome then
        throw (.error ("missing value for --" ++ name))
      else if options.has name then
        throw (.error ("duplicate option: --" ++ name))
      else
        parseOptions (Function.update options name (some (.string value))) rest

def parseInvocation (argv : List String) : Except Exception CliInvocation :=
  if "--help" ∈ argv ∨ "-h" ∈ argv then
    return ⟨"help", "help", fun _ => none⟩
  else
    match argv with
    | group :: action :: rest => do
      let options ← parseOptions (fun _ => none) rest
      return ⟨group, action, options⟩
    | _ => throw (.error "a command group and action are required")

namespace Options

def required (options : Options) (name : String) : Except Exception String :=
  match options name with
  | some (.string value) => return value
  | _ => throw (.error ("--" ++ name ++ " is required"))

def optional (options : Options) (name : String) : Option String :=
  match options name with
  | some (.string value) => some value
  | _ => none

end Options

-- The digits of `BigInt`.
def isNumeral (text : Text) : Bool :=
  !text.isEmpty && text.all Char.isDigit

def integer (value name : String) : Except Exception Int :=
  if isNumeral value.toList then
    return Nat.ofDigitChars 10 value.toList 0
  else
    throw (.error ("--" ++ name ++ " must be a non-negative integer"))

def expiry (date : String → Date) (value : String) : Except Exception Timestamp :=
  match value.toList with
  | '-' :: digits =>
    if isNumeral digits then return .integer (.bigint (-Nat.ofDigitChars 10 digits 0)) else parsed
  | digits =>
    if isNumeral digits then return .integer (.bigint (Nat.ofDigitChars 10 digits 0)) else parsed
where
  parsed : Except Exception Timestamp :=
    match (date value).time with
    | some _ => return .date (date value)
    | none => throw (.error "--expires-at must be Unix seconds or an ISO date")

variable {Pubkey : Type}

/--
What the command line takes from the machine it runs on: the home directory, the key pairs in its
files, its connections, how it reads dates, and its random numbers.
-/
structure Environment (Pubkey : Type) where
  homedir : String
  readKeypair : String → Except Exception Pubkey
  connect : String → Except Exception (Connection Pubkey)
  date : String → Date
  randomBytes : Vector UInt8 8
  ironVaultProgramAddress : Pubkey

def Environment.expandHome (env : Environment Pubkey) (path : String) : String :=
  match path.toList with
  | ['~'] => env.homedir
  | '~' :: '/' :: rest => env.homedir ++ String.ofList ('/' :: rest)
  | '~' :: '\\' :: rest => env.homedir ++ String.ofList ('\\' :: rest)
  | _ => path

def Environment.loadKeypair (env : Environment Pubkey) (path : String) : Except Exception Pubkey :=
  env.readKeypair (env.expandHome path)

-- An id that is not given is chosen by the client.
def Options.integer? (options : Options) (name : String) : Except Exception (Option Integer) :=
  match options.optional name with
  | some _ => do
    let id ← integer (← options.required name) name
    return some (.bigint id)
  | none => return none

def Options.method (options : Options) (date : String → Date) (command : String) :
    Except Exception (Method Pubkey) :=
  match command with
  | "escrow create" => do
    let recipient ← options.required "recipient"
    let mint ← options.required "mint"
    let amount ← integer (← options.required "amount") "amount"
    let expiresAt ← expiry date (← options.required "expires-at")
    let escrowId ← options.integer? "escrow-id"
    return .createEscrow {
      recipient := .string recipient
      mint := .string mint
      amount := .bigint amount
      expiresAt
      escrowId
      makerToken := (options.optional "source-token").map .string
    }
  | "escrow release" => do
    let escrowId ← integer (← options.required "escrow-id") "escrow-id"
    return .releaseEscrow {
      escrowId := .bigint escrowId
      escrow := (options.optional "escrow").map .string
      destinationToken := (options.optional "destination-token").map .string
    }
  | "escrow refund" => do
    let escrow ← options.required "escrow"
    let escrowId ← integer (← options.required "escrow-id") "escrow-id"
    return .refundEscrow {
      escrow := some (.string escrow)
      escrowId := .bigint escrowId
      destinationToken := (options.optional "destination-token").map .string
    }
  | "vault create" => do
    let guardian ← options.required "guardian"
    let vaultId ← options.integer? "vault-id"
    return .createVault { guardian := .string guardian, vaultId }
  | "vault register-asset" => do
    let vault ← options.required "vault"
    let mint ← options.required "mint"
    return .registerAsset { vault := .string vault, mint := .string mint }
  | "vault deposit" => do
    let vault ← options.required "vault"
    let mint ← options.required "mint"
    let amount ← integer (← options.required "amount") "amount"
    return .deposit {
      vault := .string vault
      mint := .string mint
      amount := .bigint amount
      sourceToken := (options.optional "source-token").map .string
    }
  | "withdrawal request" => do
    let vault ← options.required "vault"
    let mint ← options.required "mint"
    let recipient ← options.required "recipient"
    let amount ← integer (← options.required "amount") "amount"
    return .requestWithdrawal {
      vault := .string vault
      mint := .string mint
      recipient := .string recipient
      amount := .bigint amount
      recipientToken := (options.optional "recipient-token").map .string
    }
  | _ => throw (.error ("unknown command: " ++ command))

variable [DecidableEq Pubkey] [Borsh Pubkey] [Web3 Pubkey]

def Environment.programId (env : Environment Pubkey) : Option String → Except Exception Pubkey
  | some programId => asPublicKey (.string programId)
  | none => return env.ironVaultProgramAddress

/--
The client of one run, with its connection.
-/
def Environment.client (env : Environment Pubkey) (options : Options) :
    Except Exception (IronVaultClient Pubkey × Connection Pubkey) := do
  let payer ← env.loadKeypair ((options.optional "keypair").getD "~/.config/solana/id.json")
  let connection ← env.connect ((options.optional "url").getD "http://127.0.0.1:8899")
  let programId ← env.programId (options.optional "program-id")
  return (⟨payer, programId⟩, connection)

/--
The transaction that is sent, or nothing when only the usage is printed.
-/
def Environment.run (env : Environment Pubkey) (argv : List String) :
    Except Exception (Option (IronVaultClient Pubkey × Sent Pubkey (Receipt Pubkey))) := do
  let invocation ← parseInvocation argv
  if invocation.group = "help" then
    return none
  let (client, connection) ← env.client invocation.options
  let method ← invocation.options.method env.date (invocation.group ++ " " ++ invocation.action)
  let sent ← client.invoke connection env.randomBytes method
  return some (client, sent)

end IronVault.Client.Cli
