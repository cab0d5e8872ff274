import IronVault.Util.Borsh
import IronVault.Observer.Impl.Logs

/-!
This module contains the events as the observer declares them, and how it reads one from the bytes of
a data line.
-/

namespace IronVault.Observer.Events

abbrev Pubkey : Type := Vector UInt8 32

structure ProtocolInitialized where
  version : UInt16
  protocolConfig : Pubkey
  admin : Pubkey
  guardian : Pubkey
  deriving DecidableEq

instance : Borsh ProtocolInitialized :=
  .struct
    (fun event => (event.version, event.protocolConfig, event.admin, event.guardian))
    (fun ⟨a, b, c, d⟩ => ⟨a, b, c, d⟩)
    (fun _ => rfl) (fun _ => rfl)

structure ProtocolPauseUpdated where
  version : UInt16
  protocolConfig : Pubkey
  caller : Pubkey
  previousFlags : UInt32
  newFlags : UInt32
  deriving DecidableEq

instance : Borsh ProtocolPauseUpdated :=
  .struct
    (fun event => (event.version, event.protocolConfig, event.caller, event.previousFlags,
      event.newFlags))
    (fun ⟨a, b, c, d, e⟩ => ⟨a, b, c, d, e⟩)
    (fun _ => rfl) (fun _ => rfl)

structure EscrowCreated where
  version : UInt16
  escrow : Pubkey
  escrowToken : Pubkey
  maker : Pubkey
  recipient : Pubkey
  mint : Pubkey
  amount : UInt64
  createdAt : Int64
  expiresAt : Int64
  escrowId : UInt64
  deriving DecidableEq

instance : Borsh EscrowCreated :=
  .struct
    (fun event => (event.version, event.escrow, event.escrowToken, event.maker, event.recipient,
      event.mint, event.amount, event.createdAt, event.expiresAt, event.escrowId))
    (fun ⟨a, b, c, d, e, f, g, h, i, j⟩ => ⟨a, b, c, d, e, f, g, h, i, j⟩)
    (fun _ => rfl) (fun _ => rfl)

structure EscrowReleased where
  version : UInt16
  escrow : Pubkey
  escrowToken : Pubkey
  maker : Pubkey
  recipient : Pubkey
  recipientToken : Pubkey
  mint : Pubkey
  amount : UInt64
  deriving DecidableEq

instance : Borsh EscrowReleased :=
  .struct
    (fun event => (event.version, event.escrow, event.escrowToken, event.maker, event.recipient,
      event.recipientToken, event.mint, event.amount))
    (fun ⟨a, b, c, d, e, f, g, h⟩ => ⟨a, b, c, d, e, f, g, h⟩)
    (fun _ => rfl) (fun _ => rfl)

structure EscrowRefunded where
  version : UInt16
  escrow : Pubkey
  escrowToken : Pubkey
  caller : Pubkey
  maker : Pubkey
  makerDestination : Pubkey
  mint : Pubkey
  amount : UInt64
  deriving DecidableEq

instance : Borsh EscrowRefunded :=
  .struct
    (fun event => (event.version, event.escrow, event.escrowToken, event.caller, event.maker,
      event.makerDestination, event.mint, event.amount))
    (fun ⟨a, b, c, d, e, f, g, h⟩ => ⟨a, b, c, d, e, f, g, h⟩)
    (fun _ => rfl) (fun _ => rfl)

structure VaultCreated where
  version : UInt16
  vault : Pubkey
  namespaceAuthority : Pubkey
  authority : Pubkey
  guardian : Pubkey
  vaultId : UInt64
  deriving DecidableEq

instance : Borsh VaultCreated :=
  .struct
    (fun event => (event.version, event.vault, event.namespaceAuthority, event.authority,
      event.guardian, event.vaultId))
    (fun ⟨a, b, c, d, e, f⟩ => ⟨a, b, c, d, e, f⟩)
    (fun _ => rfl) (fun _ => rfl)

structure VaultAuthorityUpdated where
  version : UInt16
  vault : Pubkey
  previousAuthority : Pubkey
  newAuthority : Pubkey
  deriving DecidableEq

instance : Borsh VaultAuthorityUpdated :=
  .struct
    (fun event => (event.version, event.vault, event.previousAuthority, event.newAuthority))
    (fun ⟨a, b, c, d⟩ => ⟨a, b, c, d⟩)
    (fun _ => rfl) (fun _ => rfl)

structure VaultPauseUpdated where
  version : UInt16
  vault : Pubkey
  caller : Pubkey
  paused : Bool
  deriving DecidableEq

instance : Borsh VaultPauseUpdated :=
  .struct
    (fun event => (event.version, event.vault, event.caller, event.paused))
    (fun ⟨a, b, c, d⟩ => ⟨a, b, c, d⟩)
    (fun _ => rfl) (fun _ => rfl)

structure VaultAssetRegistered where
  version : UInt16
  vault : Pubkey
  vaultAsset : Pubkey
  vaultToken : Pubkey
  mint : Pubkey
  tokenProgram : Pubkey
  deriving DecidableEq

instance : Borsh VaultAssetRegistered :=
  .struct
    (fun event => (event.version, event.vault, event.vaultAsset, event.vaultToken, event.mint,
      event.tokenProgram))
    (fun ⟨a, b, c, d, e, f⟩ => ⟨a, b, c, d, e, f⟩)
    (fun _ => rfl) (fun _ => rfl)

structure VaultDeposit where
  version : UInt16
  vault : Pubkey
  vaultAsset : Pubkey
  vaultToken : Pubkey
  depositor : Pubkey
  sourceToken : Pubkey
  mint : Pubkey
  amount : UInt64
  deriving DecidableEq

instance : Borsh VaultDeposit :=
  .struct
    (fun event => (event.version, event.vault, event.vaultAsset, event.vaultToken, event.depositor,
      event.sourceToken, event.mint, event.amount))
    (fun ⟨a, b, c, d, e, f, g, h⟩ => ⟨a, b, c, d, e, f, g, h⟩)
    (fun _ => rfl) (fun _ => rfl)

structure VaultWithdrawal where
  version : UInt16
  vault : Pubkey
  vaultAsset : Pubkey
  vaultToken : Pubkey
  caller : Pubkey
  destinationToken : Pubkey
  mint : Pubkey
  amount : UInt64
  deriving DecidableEq

instance : Borsh VaultWithdrawal :=
  .struct
    (fun event => (event.version, event.vault, event.vaultAsset, event.vaultToken, event.caller,
      event.destinationToken, event.mint, event.amount))
    (fun ⟨a, b, c, d, e, f, g, h⟩ => ⟨a, b, c, d, e, f, g, h⟩)
    (fun _ => rfl) (fun _ => rfl)

structure RoleGranted where
  version : UInt16
  vault : Pubkey
  principal : Pubkey
  permissions : UInt64
  deriving DecidableEq

instance : Borsh RoleGranted :=
  .struct
    (fun event => (event.version, event.vault, event.principal, event.permissions))
    (fun ⟨a, b, c, d⟩ => ⟨a, b, c, d⟩)
    (fun _ => rfl) (fun _ => rfl)

structure RoleRevoked where
  version : UInt16
  vault : Pubkey
  principal : Pubkey
  previousPermissions : UInt64
  deriving DecidableEq

instance : Borsh RoleRevoked :=
  .struct
    (fun event => (event.version, event.vault, event.principal, event.previousPermissions))
    (fun ⟨a, b, c, d⟩ => ⟨a, b, c, d⟩)
    (fun _ => rfl) (fun _ => rfl)

structure VaultLimitsUpdated where
  version : UInt16
  vault : Pubkey
  vaultAsset : Pubkey
  mint : Pubkey
  caller : Pubkey
  maxPerTransaction : UInt64
  windowLimit : UInt64
  windowSeconds : Int64
  timelockThreshold : UInt64
  timelockSeconds : Int64
  requestExecutionWindowSeconds : Int64
  windowStartedAt : Int64
  windowSpent : UInt64
  deriving DecidableEq

instance : Borsh VaultLimitsUpdated :=
  .struct
    (fun event => (event.version, event.vault, event.vaultAsset, event.mint, event.caller,
      event.maxPerTransaction, event.windowLimit, event.windowSeconds, event.timelockThreshold,
      event.timelockSeconds, event.requestExecutionWindowSeconds, event.windowStartedAt,
      event.windowSpent))
    (fun ⟨a, b, c, d, e, f, g, h, i, j, k, l, m⟩ => ⟨a, b, c, d, e, f, g, h, i, j, k, l, m⟩)
    (fun _ => rfl) (fun _ => rfl)

structure WithdrawalRequested where
  version : UInt16
  vault : Pubkey
  vaultAsset : Pubkey
  withdrawalRequest : Pubkey
  proposer : Pubkey
  recipientOwner : Pubkey
  recipientTokenAccount : Pubkey
  mint : Pubkey
  withdrawalId : UInt64
  amount : UInt64
  createdAt : Int64
  executeAfter : Int64
  expiresAt : Int64
  deriving DecidableEq

instance : Borsh WithdrawalRequested :=
  .struct
    (fun event => (event.version, event.vault, event.vaultAsset, event.withdrawalRequest,
      event.proposer, event.recipientOwner, event.recipientTokenAccount, event.mint,
      event.withdrawalId, event.amount, event.createdAt, event.executeAfter, event.expiresAt))
    (fun ⟨a, b, c, d, e, f, g, h, i, j, k, l, m⟩ => ⟨a, b, c, d, e, f, g, h, i, j, k, l, m⟩)
    (fun _ => rfl) (fun _ => rfl)

structure WithdrawalExecuted where
  version : UInt16
  vault : Pubkey
  vaultAsset : Pubkey
  withdrawalRequest : Pubkey
  caller : Pubkey
  recipientTokenAccount : Pubkey
  mint : Pubkey
  withdrawalId : UInt64
  amount : UInt64
  deriving DecidableEq

instance : Borsh WithdrawalExecuted :=
  .struct
    (fun event => (event.version, event.vault, event.vaultAsset, event.withdrawalRequest,
      event.caller, event.recipientTokenAccount, event.mint, event.withdrawalId, event.amount))
    (fun ⟨a, b, c, d, e, f, g, h, i⟩ => ⟨a, b, c, d, e, f, g, h, i⟩)
    (fun _ => rfl) (fun _ => rfl)

structure WithdrawalCancelled where
  version : UInt16
  vault : Pubkey
  withdrawalRequest : Pubkey
  caller : Pubkey
  proposer : Pubkey
  withdrawalId : UInt64
  deriving DecidableEq

instance : Borsh WithdrawalCancelled :=
  .struct
    (fun event => (event.version, event.vault, event.withdrawalRequest, event.caller,
      event.proposer, event.withdrawalId))
    (fun ⟨a, b, c, d, e, f⟩ => ⟨a, b, c, d, e, f⟩)
    (fun _ => rfl) (fun _ => rfl)

inductive IronVaultEvent where
  | protocolInitialized (event : ProtocolInitialized)
  | protocolPauseUpdated (event : ProtocolPauseUpdated)
  | escrowCreated (event : EscrowCreated)
  | escrowReleased (event : EscrowReleased)
  | escrowRefunded (event : EscrowRefunded)
  | vaultCreated (event : VaultCreated)
  | vaultAuthorityUpdated (event : VaultAuthorityUpdated)
  | vaultPauseUpdated (event : VaultPauseUpdated)
  | vaultAssetRegistered (event : VaultAssetRegistered)
  | vaultDeposit (event : VaultDeposit)
  | vaultWithdrawal (event : VaultWithdrawal)
  | roleGranted (event : RoleGranted)
  | roleRevoked (event : RoleRevoked)
  | vaultLimitsUpdated (event : VaultLimitsUpdated)
  | withdrawalRequested (event : WithdrawalRequested)
  | withdrawalExecuted (event : WithdrawalExecuted)
  | withdrawalCancelled (event : WithdrawalCancelled)
  deriving DecidableEq

namespace IronVaultEvent

def name : IronVaultEvent → String
  | .protocolInitialized _ => "ProtocolInitialized"
  | .protocolPauseUpdated _ => "ProtocolPauseUpdated"
  | .escrowCreated _ => "EscrowCreated"
  | .escrowReleased _ => "EscrowReleased"
  | .escrowRefunded _ => "EscrowRefunded"
  | .vaultCreated _ => "VaultCreated"
  | .vaultAuthorityUpdated _ => "VaultAuthorityUpdated"
  | .vaultPauseUpdated _ => "VaultPauseUpdated"
  | .vaultAssetRegistered _ => "VaultAssetRegistered"
  | .vaultDeposit _ => "VaultDeposit"
  | .vaultWithdrawal _ => "VaultWithdrawal"
  | .roleGranted _ => "RoleGranted"
  | .roleRevoked _ => "RoleRevoked"
  | .vaultLimitsUpdated _ => "VaultLimitsUpdated"
  | .withdrawalRequested _ => "WithdrawalRequested"
  | .withdrawalExecuted _ => "WithdrawalExecuted"
  | .withdrawalCancelled _ => "WithdrawalCancelled"

def serialize : IronVaultEvent → List UInt8
  | .protocolInitialized event => Borsh.serialize event
  | .protocolPauseUpdated event => Borsh.serialize event
  | .escrowCreated event => Borsh.serialize event
  | .escrowReleased event => Borsh.serialize event
  | .escrowRefunded event => Borsh.serialize event
  | .vaultCreated event => Borsh.serialize event
  | .vaultAuthorityUpdated event => Borsh.serialize event
  | .vaultPauseUpdated event => Borsh.serialize event
  | .vaultAssetRegistered event => Borsh.serialize event
  | .vaultDeposit event => Borsh.serialize event
  | .vaultWithdrawal event => Borsh.serialize event
  | .roleGranted event => Borsh.serialize event
  | .roleRevoked event => Borsh.serialize event
  | .vaultLimitsUpdated event => Borsh.serialize event
  | .withdrawalRequested event => Borsh.serialize event
  | .withdrawalExecuted event => Borsh.serialize event
  | .withdrawalCancelled event => Borsh.serialize event

end IronVaultEvent

section

variable (sha256 : String → Vector UInt8 32)

def discriminator (name : String) : List UInt8 :=
  (sha256 ("event:" ++ name)).toList.take 8

def branch {α : Type} [Borsh α] (name : String) (event : α → IronVaultEvent) :
    String × (List UInt8 → Option IronVaultEvent) :=
  (name, fun bytes => (Borsh.tryFromSlice bytes).map event)

def branches : List (String × (List UInt8 → Option IronVaultEvent)) := [
  branch "ProtocolInitialized" .protocolInitialized,
  branch "ProtocolPauseUpdated" .protocolPauseUpdated,
  branch "EscrowCreated" .escrowCreated,
  branch "EscrowReleased" .escrowReleased,
  branch "EscrowRefunded" .escrowRefunded,
  branch "VaultCreated" .vaultCreated,
  branch "VaultAuthorityUpdated" .vaultAuthorityUpdated,
  branch "VaultPauseUpdated" .vaultPauseUpdated,
  branch "VaultAssetRegistered" .vaultAssetRegistered,
  branch "VaultDeposit" .vaultDeposit,
  branch "VaultWithdrawal" .vaultWithdrawal,
  branch "RoleGranted" .roleGranted,
  branch "RoleRevoked" .roleRevoked,
  branch "VaultLimitsUpdated" .vaultLimitsUpdated,
  branch "WithdrawalRequested" .withdrawalRequested,
  branch "WithdrawalExecuted" .withdrawalExecuted,
  branch "WithdrawalCancelled" .withdrawalCancelled
]

def IronVaultEvent.decode (bytes : List UInt8) : Except DecodeError IronVaultEvent :=
  if bytes.length < 10 then
    .error .shorterThanDiscriminator
  else
    match branches.find? fun (name, _) => bytes.take 8 = discriminator sha256 name with
    | some (name, read) => fetch (read (bytes.drop 8)) (.invalidPayload name)
    | none => .error .unknownDiscriminator

def decodeProgramData (standard : Text → Option (List UInt8)) (log : Text) :
    Except DecodeError (Option IronVaultEvent) :=
  match Text.stripPrefix "Program data: ".toList log with
  | none => .ok none
  | some encoded => do
    let bytes ← fetch (standard encoded) .invalidBase64
    let event ← IronVaultEvent.decode sha256 bytes
    return some event

end
end IronVault.Observer.Events
