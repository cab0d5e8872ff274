import IronVault.Util.Double
import IronVault.Program.Impl.Layout

/-!
This module contains the data of the TypeScript client: the values that its callers pass, what it
throws, the accounts it fetches and the instructions it sends. Public keys are a type parameter with
their bytes; what the client takes from web3.js and from the hash library is the class `Web3`.
-/

namespace IronVault.Client

inductive Exception where
  | error (message : String)
  | rangeError (message : String)
  -- Thrown by the JavaScript runtime, by web3.js or by the connection.
  | external
  deriving DecidableEq, Repr

/--
A `Date` is a number of milliseconds since 1970 or invalid. JavaScript keeps the number within 10^8
days.
-/
structure Date where
  time : Option Int
  time_le : ∀ t ∈ time, t.natAbs ≤ 8640000000000000

/-- The type `bigint | number`. -/
inductive Integer where
  | bigint (value : Int)
  | number (value : Double)

/-- The type `bigint | number | Date`. -/
inductive Timestamp where
  | integer (value : Integer)
  | date (value : Date)

instance : Coe Integer Timestamp where
  coe := .integer

/-- The type `PublicKey | string`. -/
inductive Address (PublicKey : Type) where
  | publicKey (key : PublicKey)
  | string (text : String)

/--
What the client uses of web3.js and of the hash library: SHA-256 of a text, derivation of addresses,
the two directions of base58, and the ids of the programs that it names.
-/
class Web3 (PublicKey : Type) where
  sha256 : String → Vector UInt8 32
  findProgramAddressSync : List (List UInt8) → PublicKey → PublicKey
  ofBase58 : String → Option PublicKey
  toBase58 : PublicKey → String
  systemProgramId : PublicKey
  sysvarClockPubkey : PublicKey
  tokenProgramAddress : PublicKey
  token2022ProgramAddress : PublicKey
  associatedTokenProgramAddress : PublicKey

structure AccountMeta (PublicKey : Type) where
  pubkey : PublicKey
  isSigner : Bool
  isWritable : Bool
  deriving DecidableEq

structure TransactionInstruction (PublicKey : Type) where
  programId : PublicKey
  keys : List (AccountMeta PublicKey)
  data : List UInt8
  deriving DecidableEq

structure AccountInfo (PublicKey : Type) where
  owner : PublicKey
  data : List UInt8

/--
The answers that one call of a method gets.
-/
structure Connection (PublicKey : Type) where
  getAccountInfo : PublicKey → Except Exception (Option (AccountInfo PublicKey))

structure CreateEscrowParams (PublicKey : Type) where
  recipient : Address PublicKey
  mint : Address PublicKey
  amount : Integer
  expiresAt : Timestamp
  escrowId : Option Integer
  makerToken : Option (Address PublicKey)

structure EscrowReference (PublicKey : Type) where
  escrowId : Integer
  escrow : Option (Address PublicKey)
  destinationToken : Option (Address PublicKey)

structure CreateVaultParams (PublicKey : Type) where
  guardian : Address PublicKey
  vaultId : Option Integer

structure VaultMintParams (PublicKey : Type) where
  vault : Address PublicKey
  mint : Address PublicKey

structure DepositParams (PublicKey : Type) extends VaultMintParams PublicKey where
  amount : Integer
  sourceToken : Option (Address PublicKey)

structure RequestWithdrawalParams (PublicKey : Type) extends VaultMintParams PublicKey where
  recipient : Address PublicKey
  amount : Integer
  recipientToken : Option (Address PublicKey)

structure EscrowState (PublicKey : Type) where
  maker : PublicKey
  recipient : PublicKey
  mint : PublicKey
  tokenProgram : PublicKey
  escrowId : Int
  deriving DecidableEq

structure VaultState (PublicKey : Type) where
  authority : PublicKey
  nextWithdrawalId : Int
  deriving DecidableEq

structure IronVaultClient (PublicKey : Type) where
  -- The public key of the signer that pays and signs.
  payer : PublicKey
  programId : PublicKey

end IronVault.Client
