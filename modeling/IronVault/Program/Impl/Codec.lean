import IronVault.Util.Borsh
import IronVault.Program.Events

/-!
This module contains the bytes that the program logs for an event. Anchor writes the discriminator of
the event and then, in the order of declaration, its fields.
-/

namespace IronVault

variable {Pubkey : Type} [Borsh Pubkey]

instance : Borsh (ProtocolInitialized Pubkey) :=
  .struct
    (fun event => (event.version, event.protocolConfig, event.admin, event.guardian))
    (fun ⟨a, b, c, d⟩ => ⟨a, b, c, d⟩)
    (fun _ => rfl) (fun _ => rfl)

instance : Borsh (ProtocolPauseUpdated Pubkey) :=
  .struct
    (fun event => (event.version, event.protocolConfig, event.caller, event.previousFlags,
      event.newFlags))
    (fun ⟨a, b, c, d, e⟩ => ⟨a, b, c, d, e⟩)
    (fun _ => rfl) (fun _ => rfl)

instance : Borsh (EscrowCreated Pubkey) :=
  .struct
    (fun event => (event.version, event.escrow, event.escrowToken, event.maker, event.recipient,
      event.mint, event.amount, event.createdAt, event.expiresAt, event.escrowId))
    (fun ⟨a, b, c, d, e, f, g, h, i, j⟩ => ⟨a, b, c, d, e, f, g, h, i, j⟩)
    (fun _ => rfl) (fun _ => rfl)

instance : Borsh (EscrowReleased Pubkey) :=
  .struct
    (fun event => (event.version, event.escrow, event.escrowToken, event.maker, event.recipient,
      event.recipientToken, event.mint, event.amount))
    (fun ⟨a, b, c, d, e, f, g, h⟩ => ⟨a, b, c, d, e, f, g, h⟩)
    (fun _ => rfl) (fun _ => rfl)

instance : Borsh (EscrowRefunded Pubkey) :=
  .struct
    (fun event => (event.version, event.escrow, event.escrowToken, event.caller, event.maker,
      event.makerDestination, event.mint, event.amount))
    (fun ⟨a, b, c, d, e, f, g, h⟩ => ⟨a, b, c, d, e, f, g, h⟩)
    (fun _ => rfl) (fun _ => rfl)

instance : Borsh (VaultCreated Pubkey) :=
  .struct
    (fun event => (event.version, event.vault, event.namespaceAuthority, event.authority,
      event.guardian, event.vaultId))
    (fun ⟨a, b, c, d, e, f⟩ => ⟨a, b, c, d, e, f⟩)
    (fun _ => rfl) (fun _ => rfl)

instance : Borsh (VaultAuthorityUpdated Pubkey) :=
  .struct
    (fun event => (event.version, event.vault, event.previousAuthority, event.newAuthority))
    (fun ⟨a, b, c, d⟩ => ⟨a, b, c, d⟩)
    (fun _ => rfl) (fun _ => rfl)

instance : Borsh (VaultPauseUpdated Pubkey) :=
  .struct
    (fun event => (event.version, event.vault, event.caller, event.paused))
    (fun ⟨a, b, c, d⟩ => ⟨a, b, c, d⟩)
    (fun _ => rfl) (fun _ => rfl)

instance : Borsh (VaultAssetRegistered Pubkey) :=
  .struct
    (fun event => (event.version, event.vault, event.vaultAsset, event.vaultToken, event.mint,
      event.tokenProgram))
    (fun ⟨a, b, c, d, e, f⟩ => ⟨a, b, c, d, e, f⟩)
    (fun _ => rfl) (fun _ => rfl)

instance : Borsh (VaultDeposit Pubkey) :=
  .struct
    (fun event => (event.version, event.vault, event.vaultAsset, event.vaultToken, event.depositor,
      event.sourceToken, event.mint, event.amount))
    (fun ⟨a, b, c, d, e, f, g, h⟩ => ⟨a, b, c, d, e, f, g, h⟩)
    (fun _ => rfl) (fun _ => rfl)

instance : Borsh (VaultWithdrawal Pubkey) :=
  .struct
    (fun event => (event.version, event.vault, event.vaultAsset, event.vaultToken, event.caller,
      event.destinationToken, event.mint, event.amount))
    (fun ⟨a, b, c, d, e, f, g, h⟩ => ⟨a, b, c, d, e, f, g, h⟩)
    (fun _ => rfl) (fun _ => rfl)

instance : Borsh (RoleGranted Pubkey) :=
  .struct
    (fun event => (event.version, event.vault, event.principal, event.permissions))
    (fun ⟨a, b, c, d⟩ => ⟨a, b, c, d⟩)
    (fun _ => rfl) (fun _ => rfl)

instance : Borsh (RoleRevoked Pubkey) :=
  .struct
    (fun event => (event.version, event.vault, event.principal, event.previousPermissions))
    (fun ⟨a, b, c, d⟩ => ⟨a, b, c, d⟩)
    (fun _ => rfl) (fun _ => rfl)

instance : Borsh (VaultLimitsUpdated Pubkey) :=
  .struct
    (fun event => (event.version, event.vault, event.vaultAsset, event.mint, event.caller,
      event.maxPerTransaction, event.windowLimit, event.windowSeconds, event.timelockThreshold,
      event.timelockSeconds, event.requestExecutionWindowSeconds, event.windowStartedAt,
      event.windowSpent))
    (fun ⟨a, b, c, d, e, f, g, h, i, j, k, l, m⟩ => ⟨a, b, c, d, e, f, g, h, i, j, k, l, m⟩)
    (fun _ => rfl) (fun _ => rfl)

instance : Borsh (WithdrawalRequested Pubkey) :=
  .struct
    (fun event => (event.version, event.vault, event.vaultAsset, event.withdrawalRequest,
      event.proposer, event.recipientOwner, event.recipientTokenAccount, event.mint,
      event.withdrawalId, event.amount, event.createdAt, event.executeAfter, event.expiresAt))
    (fun ⟨a, b, c, d, e, f, g, h, i, j, k, l, m⟩ => ⟨a, b, c, d, e, f, g, h, i, j, k, l, m⟩)
    (fun _ => rfl) (fun _ => rfl)

instance : Borsh (WithdrawalExecuted Pubkey) :=
  .struct
    (fun event => (event.version, event.vault, event.vaultAsset, event.withdrawalRequest,
      event.caller, event.recipientTokenAccount, event.mint, event.withdrawalId, event.amount))
    (fun ⟨a, b, c, d, e, f, g, h, i⟩ => ⟨a, b, c, d, e, f, g, h, i⟩)
    (fun _ => rfl) (fun _ => rfl)

instance : Borsh (WithdrawalCancelled Pubkey) :=
  .struct
    (fun event => (event.version, event.vault, event.withdrawalRequest, event.caller,
      event.proposer, event.withdrawalId))
    (fun ⟨a, b, c, d, e, f⟩ => ⟨a, b, c, d, e, f⟩)
    (fun _ => rfl) (fun _ => rfl)

namespace IronVaultEvent

def name : IronVaultEvent Pubkey → String
  | .protocolInitialized _ => "ProtocolInitialized"
  | .protocolPauseUpdated _ => "ProtocolPauseUpdated"
  | .escrowCreated _ => "EscrowCreated"
  | .escrowReleased _ => "EscrowReleased"
  | .escrowRefunded _ => "EscrowRefunded"
  | .vaultCreated _ => "VaultCreated"
  | .vaultAuthorityUpdated _ => "VaultAuthorityUpdated"
  | .vaultPauseUpdated _ => "VaultPauseUpdated"
  | .vaultAssetRegistered _ => "VaultAssetRegistered"
  | .vaultDeposit _ => "VaultDeposit"
  | .vaultWithdrawal _ => "VaultWithdrawal"
  | .roleGranted _ => "RoleGranted"
  | .roleRevoked _ => "RoleRevoked"
  | .vaultLimitsUpdated _ => "VaultLimitsUpdated"
  | .withdrawalRequested _ => "WithdrawalRequested"
  | .withdrawalExecuted _ => "WithdrawalExecuted"
  | .withdrawalCancelled _ => "WithdrawalCancelled"

def serialize : IronVaultEvent Pubkey → List UInt8
  | .protocolInitialized event => Borsh.serialize event
  | .protocolPauseUpdated event => Borsh.serialize event
  | .escrowCreated event => Borsh.serialize event
  | .escrowReleased event => Borsh.serialize event
  | .escrowRefunded event => Borsh.serialize event
  | .vaultCreated event => Borsh.serialize event
  | .vaultAuthorityUpdated event => Borsh.serialize event
  | .vaultPauseUpdated event => Borsh.serialize event
  | .vaultAssetRegistered event => Borsh.serialize event
  | .vaultDeposit event => Borsh.serialize event
  | .vaultWithdrawal event => Borsh.serialize event
  | .roleGranted event => Borsh.serialize event
  | .roleRevoked event => Borsh.serialize event
  | .vaultLimitsUpdated event => Borsh.serialize event
  | .withdrawalRequested event => Borsh.serialize event
  | .withdrawalExecuted event => Borsh.serialize event
  | .withdrawalCancelled event => Borsh.serialize event

def data (sha256 : String → Vector UInt8 32) (event : IronVaultEvent Pubkey) : List UInt8 :=
  -- The discriminator is the beginning of a hash of the name of the event.
  (sha256 ("event:" ++ event.name)).toList.take 8 ++ event.serialize

end IronVaultEvent
end IronVault
