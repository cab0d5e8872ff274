import IronVault.Util.Checked

/-!
This module contains the data model of the on-chain program: constants, errors, program derived
addresses, the token accounts that the SPL token programs keep, and the six account types that
IronVault owns. Public keys are a type parameter; what the Solana runtime and the token programs
provide on top of them is the class `Solana`.
-/

namespace IronVault

def initialSchemaVersion : UInt16 := 1

def pauseEscrowCreate : UInt32 := (1 : UInt32) <<< 0
def pauseEscrowRelease : UInt32 := (1 : UInt32) <<< 1
def pauseVaultConfig : UInt32 := (1 : UInt32) <<< 2
def pauseVaultOutflow : UInt32 := (1 : UInt32) <<< 3
def knownPauseFlags : UInt32 :=
  pauseEscrowCreate ||| pauseEscrowRelease ||| pauseVaultConfig ||| pauseVaultOutflow

def permissionWithdraw : UInt64 := (1 : UInt64) <<< 0
def permissionRequestWithdrawal : UInt64 := (1 : UInt64) <<< 1
def permissionCancelWithdrawal : UInt64 := (1 : UInt64) <<< 2
def permissionManageAssets : UInt64 := (1 : UInt64) <<< 3
def permissionManageLimits : UInt64 := (1 : UInt64) <<< 4
def permissionManageRoles : UInt64 := (1 : UInt64) <<< 5
def knownPermissions : UInt64 :=
  permissionWithdraw ||| permissionRequestWithdrawal ||| permissionCancelWithdrawal |||
    permissionManageAssets ||| permissionManageLimits ||| permissionManageRoles

def u64Max : UInt64 := 18446744073709551615

inductive IronVaultError where
  | invalidProtocolAuthority
  | unauthorizedProtocolPause
  | guardianCannotUnpause
  | invalidPauseFlags
  | protocolPaused
  | invalidAmount
  | invalidRecipient
  | invalidExpiry
  | invalidSourceOwner
  | invalidSourceMint
  | insufficientFunds
  | invalidCustodyBalance
  | invalidSourceBalance
  | escrowNotFunded
  | escrowExpired
  | escrowNotExpired
  | invalidRecipientOwner
  | invalidRecipientMint
  | invalidRecipientBalance
  | invalidMakerDestinationOwner
  | invalidMakerDestinationMint
  | invalidMakerDestinationBalance
  | invalidVaultGuardian
  | invalidVaultAuthority
  | invalidNewVaultAuthority
  | vaultAssetDisabled
  | invalidVaultAmount
  | invalidDepositSourceOwner
  | invalidDepositSourceMint
  | invalidWithdrawalDestinationMint
  | insufficientVaultFunds
  | invalidVaultCustodyBalance
  | invalidDepositSourceBalance
  | invalidWithdrawalDestinationBalance
  | vaultPaused
  | unauthorizedVaultPause
  | unauthorizedVaultUnpause
  | vaultPauseUnchanged
  | invalidRolePrincipal
  | invalidPermissionMask
  | missingVaultPermission
  | roleNotActive
  | unexpectedWithdrawalAccounts
  | invalidWithdrawalPolicy
  | perTransactionLimitExceeded
  | windowLimitExceeded
  | withdrawalPolicyOverflow
  | liveWindowDurationChange
  | unexpectedLimitAccounts
  | timelockRequired
  | timelockNotRequired
  | withdrawalTimingOverflow
  | withdrawalNotPending
  | withdrawalTimelockActive
  | withdrawalRequestExpired
  | invalidWithdrawalRecipient
  | invalidWithdrawalMint
  | unauthorizedWithdrawalCancellation
  | unexpectedRequestAccounts
  | unexpectedCancellationAccounts
  | invalidTokenProgram
  | unsupportedTokenExtension
  deriving DecidableEq, Repr

inductive AnchorError where
  | accountNotInitialized
  | accountOwnedByWrongProgram
  | accountAlreadyInUse
  | invalidProgramId
  | constraintSeeds
  | constraintHasOne
  | constraintRaw
  deriving DecidableEq, Repr

/--
Everything that can end an instruction: an error of the program, of Anchor or of the token program
called by CPI, or a failed overflow check.
-/
inductive Error where
  | ironVault (error : IronVaultError)
  | anchor (error : AnchorError)
  | tokenProgram
  | overflow
  deriving DecidableEq, Repr

instance : Coe IronVaultError Error where
  coe := .ironVault

instance : Coe AnchorError Error where
  coe := .anchor

inductive Seeds (Pubkey : Type) where
  | protocol
  | escrow (maker : Pubkey) (escrowId : UInt64)
  | escrowToken (escrow : Pubkey)
  | vault (namespaceAuthority : Pubkey) (vaultId : UInt64)
  | vaultAsset (vault mint : Pubkey)
  | vaultToken (vault mint : Pubkey)
  | role (vault principal : Pubkey)
  | withdrawal (vault : Pubkey) (withdrawalId : UInt64)
  deriving DecidableEq

structure Mint (Pubkey : Type) where
  -- The program that owns the mint account.
  tokenProgram : Pubkey
  decimals : UInt8
  -- The types in the TLV area of a Token-2022 mint.
  extensionTypes : List UInt16
  deriving DecidableEq

@[ext]
structure TokenAccount (Pubkey : Type) where
  -- The program that owns the account, as opposed to `owner`, who controls its tokens.
  tokenProgram : Pubkey
  mint : Pubkey
  owner : Pubkey
  amount : UInt64
  delegate : Option Pubkey
  delegatedAmount : UInt64
  frozen : Bool
  closeAuthority : Option Pubkey
  -- `owner` is a multisig account of the token program, so that its own signature is not enough.
  multisig : Bool
  -- The extensions of a Token-2022 account that the token program asks when the mint has none.
  memoRequired : Bool
  cpiGuard : Bool
  deriving DecidableEq

namespace TokenAccount

variable {Pubkey : Type} [DecidableEq Pubkey]

/--
What `transfer_checked` requires of its source besides the funds, when it is called by CPI and signed
by the owner alone.
-/
def Sends (account : TokenAccount Pubkey) (amount : UInt64) : Prop :=
  account.frozen = false ∧ account.multisig = false ∧
    -- An owner who is the delegate as well signs as the delegate.
    if account.delegate = some account.owner then amount ≤ account.delegatedAmount
    else account.cpiGuard = false

instance {account : TokenAccount Pubkey} {amount : UInt64} : Decidable (account.Sends amount) :=
  inferInstanceAs (Decidable (_ ∧ _))

omit [DecidableEq Pubkey] in
/--
What `transfer_checked` requires of its destination. No instruction of the program brings a memo.
-/
def Receives (account : TokenAccount Pubkey) : Prop :=
  account.frozen = false ∧ account.memoRequired = false

instance {account : TokenAccount Pubkey} : Decidable account.Receives :=
  inferInstanceAs (Decidable (_ ∧ _))

end TokenAccount

structure TransferChecked (Pubkey : Type) where
  tokenProgram : Pubkey
  source : Pubkey
  mint : Pubkey
  destination : Pubkey
  authority : Pubkey

structure TokenAccount.Debited {Pubkey : Type} [DecidableEq Pubkey]
    (src src' : TokenAccount Pubkey) (amount : UInt64) : Prop where
  sends : src.Sends amount
  amount : src.amount.toNat = src'.amount.toNat + amount.toNat
  -- The delegation is used up only when the owner is the delegate as well.
  frame : src.delegate ≠ some src.owner → src' = { src with amount := src'.amount }
  tokenProgram : src'.tokenProgram = src.tokenProgram
  mint : src'.mint = src.mint
  owner : src'.owner = src.owner

/--
What the program takes from outside the repository: address derivation of the Solana runtime and
`transfer_checked` of the token programs. The laws are what the program relies on. Addresses derived
from different seeds or bumps differ. `transfer_checked` of an extension-free mint, signed by the
owner of its source, moves exactly the amount between two accounts, and has no effect on one account.
It succeeds when the accounts fit together, the funds suffice, the destination has room and neither
account refuses; it does not succeed when one of them refuses.
-/
class Solana (Pubkey : Type) [DecidableEq Pubkey] where
  createProgramAddress : Seeds Pubkey → UInt8 → Option Pubkey
  findProgramAddress : Seeds Pubkey → Pubkey × UInt8
  defaultKey : Pubkey
  tokenId : Pubkey
  token2022Id : Pubkey
  transferChecked : (Pubkey → Option (TokenAccount Pubkey)) → (Pubkey → Option (Mint Pubkey)) →
    TransferChecked Pubkey → UInt64 → UInt8 → Option (Pubkey → Option (TokenAccount Pubkey))
  createProgramAddress_find (seeds : Seeds Pubkey) :
    createProgramAddress seeds (findProgramAddress seeds).2 = some (findProgramAddress seeds).1
  createProgramAddress_inj {seeds seeds' : Seeds Pubkey} {bump bump' : UInt8} {key : Pubkey} :
    createProgramAddress seeds bump = some key → createProgramAddress seeds' bump' = some key →
      seeds = seeds' ∧ bump = bump'
  transferChecked_ok {token token' : Pubkey → Option (TokenAccount Pubkey)}
    {mint : Pubkey → Option (Mint Pubkey)} {x : TransferChecked Pubkey} {amount : UInt64}
    {decimals : UInt8} {src dst : TokenAccount Pubkey} {m : Mint Pubkey} :
    transferChecked token mint x amount decimals = some token' →
    token x.source = some src → token x.destination = some dst → mint x.mint = some m →
    (m.tokenProgram = tokenId ∨ m.extensionTypes = []) → src.owner = x.authority →
    x.source ≠ x.destination →
      ∃ src', src.Debited src' amount ∧ dst.Receives ∧ dst.amount.toNat + amount.toNat < 2 ^ 64 ∧
        token' = Function.update (Function.update token x.source (some src')) x.destination
          (some { dst with amount := dst.amount + amount })
  transferChecked_self {token token' : Pubkey → Option (TokenAccount Pubkey)}
    {mint : Pubkey → Option (Mint Pubkey)} {x : TransferChecked Pubkey} {amount : UInt64}
    {decimals : UInt8} :
    transferChecked token mint x amount decimals = some token' → x.source = x.destination →
      token' = token
  transferChecked_succeeds {token : Pubkey → Option (TokenAccount Pubkey)}
    {mint : Pubkey → Option (Mint Pubkey)} {x : TransferChecked Pubkey} {amount : UInt64}
    {src dst : TokenAccount Pubkey} {m : Mint Pubkey} :
    token x.source = some src → token x.destination = some dst → mint x.mint = some m →
    src.tokenProgram = x.tokenProgram → dst.tokenProgram = x.tokenProgram →
    m.tokenProgram = x.tokenProgram →
    (x.tokenProgram = tokenId ∨ x.tokenProgram = token2022Id ∧ m.extensionTypes = []) →
    src.mint = x.mint → dst.mint = x.mint →
    src.owner = x.authority → src.Sends amount → dst.Receives → amount ≤ src.amount →
    dst.amount.toNat + amount.toNat < 2 ^ 64 →
      (transferChecked token mint x amount m.decimals).isSome

section

variable {Pubkey : Type} [DecidableEq Pubkey] [Solana Pubkey]

open Solana

def address (seeds : Seeds Pubkey) : Pubkey :=
  (findProgramAddress seeds).1

/--
The key is derived from the program id. Such a key has no private key, so only the program itself
can sign for it.
-/
def IsProgramAddress (key : Pubkey) : Prop :=
  ∃ seeds bump, createProgramAddress seeds bump = some key

def isTokenProgram (key : Pubkey) : Bool :=
  key = tokenId ∨ key = token2022Id

theorem isProgramAddress_address (seeds : Seeds Pubkey) : IsProgramAddress (address seeds) :=
  ⟨seeds, _, createProgramAddress_find seeds⟩

theorem address_eq_of_create {seeds : Seeds Pubkey} {bump : UInt8} {key : Pubkey}
    {seeds' : Seeds Pubkey} (h : createProgramAddress seeds bump = some key)
    (hkey : key = address seeds') : seeds = seeds' := by
  subst hkey
  exact (createProgramAddress_inj h (createProgramAddress_find seeds')).1

@[simp]
theorem address_inj {seeds seeds' : Seeds Pubkey} : address seeds = address seeds' ↔ seeds = seeds' := by
  constructor
  . intro h
    exact address_eq_of_create (createProgramAddress_find seeds) h
  . rintro rfl
    rfl

end

structure ProtocolConfig (Pubkey : Type) where
  version : UInt16
  admin : Pubkey
  guardian : Pubkey
  pauseFlags : UInt32
  bump : UInt8
  reserved : Vector UInt8 61
  deriving DecidableEq

def ProtocolConfig.isPaused {Pubkey : Type} (config : ProtocolConfig Pubkey) (flag : UInt32) : Bool :=
  config.pauseFlags &&& flag ≠ 0

inductive EscrowStatus where
  | funded
  | released
  | refunded
  deriving DecidableEq, Repr

structure Escrow (Pubkey : Type) where
  maker : Pubkey
  recipient : Pubkey
  mint : Pubkey
  tokenProgram : Pubkey
  escrowId : UInt64
  amount : UInt64
  createdAt : Int64
  expiresAt : Int64
  status : EscrowStatus
  bump : UInt8
  reserved : Vector UInt8 30
  deriving DecidableEq

structure Vault (Pubkey : Type) where
  namespaceAuthority : Pubkey
  authority : Pubkey
  guardian : Pubkey
  vaultId : UInt64
  nextWithdrawalId : UInt64
  paused : Bool
  bump : UInt8
  reserved : Vector UInt8 46
  deriving DecidableEq

structure VaultAsset (Pubkey : Type) where
  vault : Pubkey
  mint : Pubkey
  tokenProgram : Pubkey
  maxPerTransaction : UInt64
  windowLimit : UInt64
  windowSeconds : Int64
  windowStartedAt : Int64
  windowSpent : UInt64
  timelockThreshold : UInt64
  timelockSeconds : Int64
  requestExecutionWindowSeconds : Int64
  enabled : Bool
  bump : UInt8
  reserved : Vector UInt8 30
  deriving DecidableEq

structure RoleAssignment (Pubkey : Type) where
  vault : Pubkey
  principal : Pubkey
  permissions : UInt64
  active : Bool
  bump : UInt8
  reserved : Vector UInt8 54
  deriving DecidableEq

def RoleAssignment.has {Pubkey : Type} (role : RoleAssignment Pubkey) (permission : UInt64) : Bool :=
  role.active && role.permissions &&& permission = permission

inductive WithdrawalStatus where
  | pending
  | executed
  | cancelled
  deriving DecidableEq, Repr

structure WithdrawalRequest (Pubkey : Type) where
  vault : Pubkey
  vaultAsset : Pubkey
  mint : Pubkey
  tokenProgram : Pubkey
  proposer : Pubkey
  recipientOwner : Pubkey
  recipientTokenAccount : Pubkey
  withdrawalId : UInt64
  amount : UInt64
  createdAt : Int64
  executeAfter : Int64
  expiresAt : Int64
  status : WithdrawalStatus
  bump : UInt8
  reserved : Vector UInt8 30
  deriving DecidableEq

def balanceOf {Pubkey : Type} (token : Pubkey → Option (TokenAccount Pubkey)) (key : Pubkey) : Nat :=
  match token key with
  | some account => account.amount.toNat
  | none => 0

/--
The ledger as the program sees it, one partial map per account type. Deserializing an account as
some type is looking it up in the map of that type.
-/
structure State (Pubkey : Type) where
  protocolConfig : Pubkey → Option (ProtocolConfig Pubkey)
  escrow : Pubkey → Option (Escrow Pubkey)
  vault : Pubkey → Option (Vault Pubkey)
  vaultAsset : Pubkey → Option (VaultAsset Pubkey)
  roleAssignment : Pubkey → Option (RoleAssignment Pubkey)
  withdrawalRequest : Pubkey → Option (WithdrawalRequest Pubkey)
  token : Pubkey → Option (TokenAccount Pubkey)
  mint : Pubkey → Option (Mint Pubkey)

namespace State

variable {Pubkey : Type}

def empty : State Pubkey where
  protocolConfig _ := none
  escrow _ := none
  vault _ := none
  vaultAsset _ := none
  roleAssignment _ := none
  withdrawalRequest _ := none
  token _ := none
  mint _ := none

def unallocated (s : State Pubkey) (key : Pubkey) : Bool :=
  (s.protocolConfig key).isNone && (s.escrow key).isNone && (s.vault key).isNone &&
    (s.vaultAsset key).isNone && (s.roleAssignment key).isNone &&
    (s.withdrawalRequest key).isNone && (s.token key).isNone && (s.mint key).isNone

def balance (s : State Pubkey) (key : Pubkey) : Nat :=
  balanceOf s.token key

def frozen (s : State Pubkey) (key : Pubkey) : Bool :=
  (s.token key).any (·.frozen)

def memoRequired (s : State Pubkey) (key : Pubkey) : Bool :=
  (s.token key).any (·.memoRequired)

/--
The token programs refuse no transfer from an account of the program to `destination`.
-/
def Payable (s : State Pubkey) (custody destination : Pubkey) : Prop :=
  s.frozen custody = false ∧ s.frozen destination = false ∧ s.memoRequired destination = false

instance {s : State Pubkey} {custody destination : Pubkey} :
    Decidable (s.Payable custody destination) :=
  inferInstanceAs (Decidable (_ ∧ _))

end State
end IronVault
