import IronVault.Program.Basic

/-!
This module contains the events that the program emits, one structure per `#[event]`.
-/

namespace IronVault

structure ProtocolInitialized (Pubkey : Type) where
  version : UInt16
  protocolConfig : Pubkey
  admin : Pubkey
  guardian : Pubkey
  deriving DecidableEq

structure ProtocolPauseUpdated (Pubkey : Type) where
  version : UInt16
  protocolConfig : Pubkey
  caller : Pubkey
  previousFlags : UInt32
  newFlags : UInt32
  deriving DecidableEq

structure EscrowCreated (Pubkey : Type) where
  version : UInt16
  escrow : Pubkey
  escrowToken : Pubkey
  maker : Pubkey
  recipient : Pubkey
  mint : Pubkey
  amount : UInt64
  createdAt : Int64
  expiresAt : Int64
  escrowId : UInt64
  deriving DecidableEq

structure EscrowReleased (Pubkey : Type) where
  version : UInt16
  escrow : Pubkey
  escrowToken : Pubkey
  maker : Pubkey
  recipient : Pubkey
  recipientToken : Pubkey
  mint : Pubkey
  amount : UInt64
  deriving DecidableEq

structure EscrowRefunded (Pubkey : Type) where
  version : UInt16
  escrow : Pubkey
  escrowToken : Pubkey
  caller : Pubkey
  maker : Pubkey
  makerDestination : Pubkey
  mint : Pubkey
  amount : UInt64
  deriving DecidableEq

structure VaultCreated (Pubkey : Type) where
  version : UInt16
  vault : Pubkey
  namespaceAuthority : Pubkey
  authority : Pubkey
  guardian : Pubkey
  vaultId : UInt64
  deriving DecidableEq

structure VaultAuthorityUpdated (Pubkey : Type) where
  version : UInt16
  vault : Pubkey
  previousAuthority : Pubkey
  newAuthority : Pubkey
  deriving DecidableEq

structure VaultPauseUpdated (Pubkey : Type) where
  version : UInt16
  vault : Pubkey
  caller : Pubkey
  paused : Bool
  deriving DecidableEq

structure VaultAssetRegistered (Pubkey : Type) where
  version : UInt16
  vault : Pubkey
  vaultAsset : Pubkey
  vaultToken : Pubkey
  mint : Pubkey
  tokenProgram : Pubkey
  deriving DecidableEq

structure VaultDeposit (Pubkey : Type) where
  version : UInt16
  vault : Pubkey
  vaultAsset : Pubkey
  vaultToken : Pubkey
  depositor : Pubkey
  sourceToken : Pubkey
  mint : Pubkey
  amount : UInt64
  deriving DecidableEq

structure VaultWithdrawal (Pubkey : Type) where
  version : UInt16
  vault : Pubkey
  vaultAsset : Pubkey
  vaultToken : Pubkey
  caller : Pubkey
  destinationToken : Pubkey
  mint : Pubkey
  amount : UInt64
  deriving DecidableEq

structure RoleGranted (Pubkey : Type) where
  version : UInt16
  vault : Pubkey
  principal : Pubkey
  permissions : UInt64
  deriving DecidableEq

structure RoleRevoked (Pubkey : Type) where
  version : UInt16
  vault : Pubkey
  principal : Pubkey
  previousPermissions : UInt64
  deriving DecidableEq

structure VaultLimitsUpdated (Pubkey : Type) where
  version : UInt16
  vault : Pubkey
  vaultAsset : Pubkey
  mint : Pubkey
  caller : Pubkey
  maxPerTransaction : UInt64
  windowLimit : UInt64
  windowSeconds : Int64
  timelockThreshold : UInt64
  timelockSeconds : Int64
  requestExecutionWindowSeconds : Int64
  windowStartedAt : Int64
  windowSpent : UInt64
  deriving DecidableEq

structure WithdrawalRequested (Pubkey : Type) where
  version : UInt16
  vault : Pubkey
  vaultAsset : Pubkey
  withdrawalRequest : Pubkey
  proposer : Pubkey
  recipientOwner : Pubkey
  recipientTokenAccount : Pubkey
  mint : Pubkey
  withdrawalId : UInt64
  amount : UInt64
  createdAt : Int64
  executeAfter : Int64
  expiresAt : Int64
  deriving DecidableEq

structure WithdrawalExecuted (Pubkey : Type) where
  version : UInt16
  vault : Pubkey
  vaultAsset : Pubkey
  withdrawalRequest : Pubkey
  caller : Pubkey
  recipientTokenAccount : Pubkey
  mint : Pubkey
  withdrawalId : UInt64
  amount : UInt64
  deriving DecidableEq

structure WithdrawalCancelled (Pubkey : Type) where
  version : UInt16
  vault : Pubkey
  withdrawalRequest : Pubkey
  caller : Pubkey
  proposer : Pubkey
  withdrawalId : UInt64
  deriving DecidableEq

inductive IronVaultEvent (Pubkey : Type) where
  | protocolInitialized (event : ProtocolInitialized Pubkey)
  | protocolPauseUpdated (event : ProtocolPauseUpdated Pubkey)
  | escrowCreated (event : EscrowCreated Pubkey)
  | escrowReleased (event : EscrowReleased Pubkey)
  | escrowRefunded (event : EscrowRefunded Pubkey)
  | vaultCreated (event : VaultCreated Pubkey)
  | vaultAuthorityUpdated (event : VaultAuthorityUpdated Pubkey)
  | vaultPauseUpdated (event : VaultPauseUpdated Pubkey)
  | vaultAssetRegistered (event : VaultAssetRegistered Pubkey)
  | vaultDeposit (event : VaultDeposit Pubkey)
  | vaultWithdrawal (event : VaultWithdrawal Pubkey)
  | roleGranted (event : RoleGranted Pubkey)
  | roleRevoked (event : RoleRevoked Pubkey)
  | vaultLimitsUpdated (event : VaultLimitsUpdated Pubkey)
  | withdrawalRequested (event : WithdrawalRequested Pubkey)
  | withdrawalExecuted (event : WithdrawalExecuted Pubkey)
  | withdrawalCancelled (event : WithdrawalCancelled Pubkey)
  deriving DecidableEq

end IronVault
