import IronVault.Program.Impl.Step

/-!
This module contains the accounts that an instruction names, and those that its handler declares as
mutable. The runtime locks the accounts of a transaction by these declarations before it runs it, and
rejects a change of any account that is not among the mutable ones. The system program and the clock
are left out, they are never written.
-/

namespace IronVault.Instruction

variable {Pubkey : Type}

def accounts : Instruction Pubkey → List Pubkey
  | .dispatch => []
  | .initializeProtocol ctx _ _ => [ctx.initializer, ctx.protocolConfig]
  | .setProtocolPause ctx _ => [ctx.caller, ctx.protocolConfig]
  | .createEscrow ctx _ _ _ _ => [ctx.maker, ctx.protocolConfig, ctx.mint, ctx.makerToken, ctx.escrow,
      ctx.escrowToken, ctx.tokenProgram]
  | .releaseEscrow ctx => [ctx.maker, ctx.protocolConfig, ctx.escrow, ctx.mint, ctx.escrowToken,
      ctx.recipientToken, ctx.tokenProgram]
  | .refundEscrow ctx => [ctx.caller, ctx.escrow, ctx.mint, ctx.escrowToken, ctx.makerDestination,
      ctx.tokenProgram]
  | .createVault ctx _ _ => [ctx.authority, ctx.protocolConfig, ctx.vault]
  | .setVaultAuthority ctx _ => [ctx.currentAuthority, ctx.protocolConfig, ctx.vault]
  | .pauseVault ctx => [ctx.caller, ctx.vault]
  | .unpauseVault ctx => [ctx.authority, ctx.vault]
  | .registerAsset ctx => [ctx.authority, ctx.protocolConfig, ctx.vault, ctx.mint, ctx.vaultAsset,
      ctx.vaultToken, ctx.tokenProgram]
  | .deposit ctx _ => [ctx.depositor, ctx.vault, ctx.mint, ctx.vaultAsset, ctx.sourceToken,
      ctx.vaultToken, ctx.tokenProgram]
  | .withdraw ctx _ => [ctx.caller, ctx.protocolConfig, ctx.vault, ctx.mint, ctx.vaultAsset,
      ctx.vaultToken, ctx.destinationToken, ctx.tokenProgram] ++ ctx.remainingAccounts
  | .grantRole ctx _ _ => [ctx.authority, ctx.protocolConfig, ctx.vault, ctx.roleAssignment]
  | .revokeRole ctx _ => [ctx.authority, ctx.protocolConfig, ctx.vault, ctx.roleAssignment]
  | .updateLimits ctx _ => [ctx.caller, ctx.protocolConfig, ctx.vault, ctx.mint, ctx.vaultAsset]
      ++ ctx.remainingAccounts
  | .requestWithdrawal ctx _ => [ctx.proposer, ctx.protocolConfig, ctx.vault, ctx.mint,
      ctx.vaultAsset, ctx.recipientToken, ctx.withdrawalRequest] ++ ctx.remainingAccounts
  | .executeWithdrawal ctx => [ctx.caller, ctx.protocolConfig, ctx.vault, ctx.mint, ctx.vaultAsset,
      ctx.withdrawalRequest, ctx.vaultToken, ctx.recipientToken, ctx.tokenProgram]
  | .cancelWithdrawal ctx => [ctx.caller, ctx.vault, ctx.withdrawalRequest]
      ++ ctx.remainingAccounts

def writable : Instruction Pubkey → List Pubkey
  -- `mut`, `init` and `init_if_needed`. A signer that pays for a new account is one of them.
  | .dispatch => []
  | .initializeProtocol ctx _ _ => [ctx.initializer, ctx.protocolConfig]
  | .setProtocolPause ctx _ => [ctx.protocolConfig]
  | .createEscrow ctx _ _ _ _ => [ctx.maker, ctx.makerToken, ctx.escrow, ctx.escrowToken]
  | .releaseEscrow ctx => [ctx.escrow, ctx.escrowToken, ctx.recipientToken]
  | .refundEscrow ctx => [ctx.escrow, ctx.escrowToken, ctx.makerDestination]
  | .createVault ctx _ _ => [ctx.authority, ctx.vault]
  | .setVaultAuthority ctx _ => [ctx.vault]
  | .pauseVault ctx => [ctx.vault]
  | .unpauseVault ctx => [ctx.vault]
  | .registerAsset ctx => [ctx.authority, ctx.vaultAsset, ctx.vaultToken]
  | .deposit ctx _ => [ctx.sourceToken, ctx.vaultToken]
  | .withdraw ctx _ => [ctx.vaultAsset, ctx.vaultToken, ctx.destinationToken]
  | .grantRole ctx _ _ => [ctx.authority, ctx.roleAssignment]
  | .revokeRole ctx _ => [ctx.roleAssignment]
  | .updateLimits ctx _ => [ctx.vaultAsset]
  | .requestWithdrawal ctx _ => [ctx.proposer, ctx.vault, ctx.withdrawalRequest]
  | .executeWithdrawal ctx => [ctx.vaultAsset, ctx.withdrawalRequest, ctx.vaultToken,
      ctx.recipientToken]
  | .cancelWithdrawal ctx => [ctx.withdrawalRequest]

end IronVault.Instruction
