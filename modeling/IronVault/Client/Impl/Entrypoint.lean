import IronVault.Client.Basic
import IronVault.Program.Impl.Step

/-!
This module contains how the program reads the instructions that the client sends. Anchor picks the
handler by the discriminator in front of the data, decodes the arguments of the handler behind it and
takes the accounts in the order in which the handler declares them.
-/

namespace IronVault.Client

variable {PublicKey : Type} [Borsh PublicKey] [Web3 PublicKey]

namespace TransactionInstruction

variable (PublicKey) in
def discriminator (name : String) : List UInt8 :=
  (Web3.sha256 PublicKey ("global:" ++ name)).toList.take 8

def calls (ix : TransactionInstruction PublicKey) (name : String) : Bool :=
  ix.data.take 8 = discriminator PublicKey name

def arguments (α : Type) [Borsh α] (ix : TransactionInstruction PublicKey) : Option α :=
  -- Bytes behind the arguments are ignored.
  (Borsh.deserialize (ix.data.drop 8)).map Prod.fst

def accounts (ix : TransactionInstruction PublicKey) : List PublicKey :=
  ix.keys.map AccountMeta.pubkey

def createEscrow? (ix : TransactionInstruction PublicKey) : Option (Instruction PublicKey) := do
  guard (ix.calls "create_escrow")
  let (escrowId, recipient, amount, expiresAt) ←
    ix.arguments (UInt64 × PublicKey × UInt64 × Int64)
  match ix.accounts with
  | maker :: protocolConfig :: mint :: makerToken :: escrow :: escrowToken :: tokenProgram ::
      _systemProgram :: _ =>
    return .createEscrow
      { maker, protocolConfig, mint, makerToken, escrow, escrowToken, tokenProgram }
      escrowId recipient amount expiresAt
  | _ => none

def releaseEscrow? (ix : TransactionInstruction PublicKey) : Option (Instruction PublicKey) := do
  guard (ix.calls "release_escrow")
  match ix.accounts with
  | maker :: protocolConfig :: escrow :: mint :: escrowToken :: recipientToken :: tokenProgram :: _ =>
    return .releaseEscrow
      { maker, protocolConfig, escrow, mint, escrowToken, recipientToken, tokenProgram }
  | _ => none

def refundEscrow? (ix : TransactionInstruction PublicKey) : Option (Instruction PublicKey) := do
  guard (ix.calls "refund_escrow")
  match ix.accounts with
  | caller :: escrow :: mint :: escrowToken :: makerDestination :: tokenProgram :: _clock :: _ =>
    return .refundEscrow { caller, escrow, mint, escrowToken, makerDestination, tokenProgram }
  | _ => none

def createVault? (ix : TransactionInstruction PublicKey) : Option (Instruction PublicKey) := do
  guard (ix.calls "create_vault")
  let (vaultId, guardian) ← ix.arguments (UInt64 × PublicKey)
  match ix.accounts with
  | authority :: protocolConfig :: vault :: _systemProgram :: _ =>
    return .createVault { authority, protocolConfig, vault } vaultId guardian
  | _ => none

def deposit? (ix : TransactionInstruction PublicKey) : Option (Instruction PublicKey) := do
  guard (ix.calls "deposit")
  let amount ← ix.arguments UInt64
  match ix.accounts with
  | depositor :: vault :: mint :: vaultAsset :: sourceToken :: vaultToken :: tokenProgram :: _ =>
    return .deposit { depositor, vault, mint, vaultAsset, sourceToken, vaultToken, tokenProgram }
      amount
  | _ => none

def requestWithdrawal? (ix : TransactionInstruction PublicKey) :
    Option (Instruction PublicKey) := do
  guard (ix.calls "request_withdrawal")
  let amount ← ix.arguments UInt64
  match ix.accounts with
  | proposer :: protocolConfig :: vault :: mint :: vaultAsset :: recipientToken ::
      withdrawalRequest :: _systemProgram :: _clock :: remainingAccounts =>
    return .requestWithdrawal {
      proposer, protocolConfig, vault, mint, vaultAsset, recipientToken, withdrawalRequest
      remainingAccounts
    } amount
  | _ => none

def dispatchInitialize? (ix : TransactionInstruction PublicKey) : Option (Instruction PublicKey) := do
  guard (ix.calls "initialize")
  return .dispatch

def initializeProtocol? (ix : TransactionInstruction PublicKey) :
    Option (Instruction PublicKey) := do
  guard (ix.calls "initialize_protocol")
  let (admin, guardian) ← ix.arguments (PublicKey × PublicKey)
  match ix.accounts with
  | initializer :: protocolConfig :: _systemProgram :: _ =>
    return .initializeProtocol { initializer, protocolConfig } admin guardian
  | _ => none

def setProtocolPause? (ix : TransactionInstruction PublicKey) : Option (Instruction PublicKey) := do
  guard (ix.calls "set_protocol_pause")
  let flags ← ix.arguments UInt32
  match ix.accounts with
  | caller :: protocolConfig :: _ => return .setProtocolPause { caller, protocolConfig } flags
  | _ => none

def setVaultAuthority? (ix : TransactionInstruction PublicKey) :
    Option (Instruction PublicKey) := do
  guard (ix.calls "set_vault_authority")
  let newAuthority ← ix.arguments PublicKey
  match ix.accounts with
  | currentAuthority :: protocolConfig :: vault :: _ =>
    return .setVaultAuthority { currentAuthority, protocolConfig, vault } newAuthority
  | _ => none

def pauseVault? (ix : TransactionInstruction PublicKey) : Option (Instruction PublicKey) := do
  guard (ix.calls "pause_vault")
  match ix.accounts with
  | caller :: vault :: _ => return .pauseVault { caller, vault }
  | _ => none

def unpauseVault? (ix : TransactionInstruction PublicKey) : Option (Instruction PublicKey) := do
  guard (ix.calls "unpause_vault")
  match ix.accounts with
  | authority :: vault :: _ => return .unpauseVault { authority, vault }
  | _ => none

def registerAsset? (ix : TransactionInstruction PublicKey) : Option (Instruction PublicKey) := do
  guard (ix.calls "register_asset")
  match ix.accounts with
  | authority :: protocolConfig :: vault :: mint :: vaultAsset :: vaultToken :: tokenProgram ::
      _systemProgram :: _ =>
    return .registerAsset
      { authority, protocolConfig, vault, mint, vaultAsset, vaultToken, tokenProgram }
  | _ => none

def withdraw? (ix : TransactionInstruction PublicKey) : Option (Instruction PublicKey) := do
  guard (ix.calls "withdraw")
  let amount ← ix.arguments UInt64
  match ix.accounts with
  | caller :: protocolConfig :: vault :: mint :: vaultAsset :: vaultToken :: destinationToken ::
      tokenProgram :: remainingAccounts =>
    return .withdraw {
      caller, protocolConfig, vault, mint, vaultAsset, vaultToken, destinationToken, tokenProgram
      remainingAccounts
    } amount
  | _ => none

def grantRole? (ix : TransactionInstruction PublicKey) : Option (Instruction PublicKey) := do
  guard (ix.calls "grant_role")
  let (principal, permissions) ← ix.arguments (PublicKey × UInt64)
  match ix.accounts with
  | authority :: protocolConfig :: vault :: roleAssignment :: _systemProgram :: _ =>
    return .grantRole { authority, protocolConfig, vault, roleAssignment } principal permissions
  | _ => none

def revokeRole? (ix : TransactionInstruction PublicKey) : Option (Instruction PublicKey) := do
  guard (ix.calls "revoke_role")
  let principal ← ix.arguments PublicKey
  match ix.accounts with
  | authority :: protocolConfig :: vault :: roleAssignment :: _ =>
    return .revokeRole { authority, protocolConfig, vault, roleAssignment } principal
  | _ => none

def updateLimits? (ix : TransactionInstruction PublicKey) : Option (Instruction PublicKey) := do
  guard (ix.calls "update_limits")
  let (maxPerTransaction, windowLimit, windowSeconds, timelockThreshold, timelockSeconds,
    requestExecutionWindowSeconds) ←
      ix.arguments (UInt64 × UInt64 × Int64 × UInt64 × Int64 × Int64)
  match ix.accounts with
  | caller :: protocolConfig :: vault :: mint :: vaultAsset :: _clock :: remainingAccounts =>
    return .updateLimits { caller, protocolConfig, vault, mint, vaultAsset, remainingAccounts } {
      maxPerTransaction, windowLimit, windowSeconds, timelockThreshold, timelockSeconds
      requestExecutionWindowSeconds
    }
  | _ => none

def executeWithdrawal? (ix : TransactionInstruction PublicKey) :
    Option (Instruction PublicKey) := do
  guard (ix.calls "execute_withdrawal")
  match ix.accounts with
  | caller :: protocolConfig :: vault :: mint :: vaultAsset :: withdrawalRequest :: vaultToken ::
      recipientToken :: tokenProgram :: _clock :: _ =>
    return .executeWithdrawal {
      caller, protocolConfig, vault, mint, vaultAsset, withdrawalRequest, vaultToken, recipientToken
      tokenProgram
    }
  | _ => none

def cancelWithdrawal? (ix : TransactionInstruction PublicKey) : Option (Instruction PublicKey) := do
  guard (ix.calls "cancel_withdrawal")
  match ix.accounts with
  | caller :: vault :: withdrawalRequest :: remainingAccounts =>
    return .cancelWithdrawal { caller, vault, withdrawalRequest, remainingAccounts }
  | _ => none

end TransactionInstruction
end IronVault.Client
