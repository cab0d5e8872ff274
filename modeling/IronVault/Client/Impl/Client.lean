import IronVault.Client.Impl.Pdas

/-!
This module contains the methods of `IronVaultClient`. A method that returns has handed a list of
instructions to `send`, as one transaction; the model returns this list together with the accounts
that the method returns. A method that throws has sent nothing.
-/

namespace IronVault.Client

structure Sent (PublicKey α : Type) where
  instructions : List (TransactionInstruction PublicKey)
  accounts : α

structure CreateEscrowAccounts (PublicKey : Type) where
  escrow : PublicKey
  escrowToken : PublicKey
  makerToken : PublicKey
  tokenProgram : PublicKey
  escrowId : Int

structure ReleaseEscrowAccounts (PublicKey : Type) where
  escrow : PublicKey
  escrowToken : PublicKey
  recipientToken : PublicKey

structure RefundEscrowAccounts (PublicKey : Type) where
  escrow : PublicKey
  escrowToken : PublicKey
  makerDestination : PublicKey

structure CreateVaultAccounts (PublicKey : Type) where
  vault : PublicKey
  vaultId : Int

structure RegisterAssetAccounts (PublicKey : Type) where
  vault : PublicKey
  vaultAsset : PublicKey
  vaultToken : PublicKey
  tokenProgram : PublicKey

structure DepositAccounts (PublicKey : Type) where
  vault : PublicKey
  vaultAsset : PublicKey
  vaultToken : PublicKey
  sourceToken : PublicKey

structure RequestWithdrawalAccounts (PublicKey : Type) where
  vault : PublicKey
  vaultAsset : PublicKey
  withdrawalRequest : PublicKey
  recipientToken : PublicKey
  withdrawalId : Int

/--
An optional address as a condition: an absent address counts as false, and so does the empty text.
-/
def given {PublicKey : Type} : Option (Address PublicKey) → Option (Address PublicKey)
  | some (.string "") => none
  | address => address

def idOr (id : Option Integer) (randomBytes : Vector UInt8 8) (field : String) :
    Except Exception Int :=
  match id with
  | none => .ok (randomU64 randomBytes)
  | some id => toBigInt id field

namespace IronVaultClient

variable {PublicKey : Type} [DecidableEq PublicKey] [Borsh PublicKey] [Web3 PublicKey]

open Web3

def addressOr (address : Option (Address PublicKey)) (otherwise : Except Exception PublicKey) :
    Except Exception PublicKey :=
  match given address with
  | some address => asPublicKey address
  | none => otherwise

def createDestination (address : Option (Address PublicKey))
    (payer associatedToken owner mint tokenProgram : PublicKey) :
    List (TransactionInstruction PublicKey) :=
  -- A token account that the caller gives is not created.
  match given address with
  | some _ => []
  | none => [
      createAssociatedTokenAccountIdempotentInstruction payer associatedToken owner mint tokenProgram
    ]

section Fetch

def resolveTokenProgram (connection : Connection PublicKey) (mint : PublicKey) :
    Except Exception PublicKey := do
  match ← connection.getAccountInfo mint with
  | none => .error (.error ("mint account not found: " ++ toBase58 mint))
  | some account =>
    if account.owner ≠ tokenProgramAddress ∧ account.owner ≠ token2022ProgramAddress then
      .error (.error ("unsupported mint owner: " ++ toBase58 account.owner))
    else
      return account.owner

def fetchProgramAccount (client : IronVaultClient PublicKey) (connection : Connection PublicKey)
    (address : PublicKey) (type : String) (minimumLength : Nat) : Except Exception (List UInt8) := do
  match ← connection.getAccountInfo address with
  | none => .error (.error (type ++ " account not found: " ++ toBase58 address))
  | some account =>
    if account.owner ≠ client.programId then
      .error (.error (type ++ " account has the wrong owner"))
    else if account.data.length < minimumLength ∨
        subarray account.data 0 8 ≠ anchorDiscriminator PublicKey "account" type then
      .error (.error (type ++ " account data is invalid"))
    else
      return account.data

def fetchEscrow (client : IronVaultClient PublicKey) (connection : Connection PublicKey)
    (address : PublicKey) : Except Exception (EscrowState PublicKey) := do
  let data ← client.fetchProgramAccount connection address "Escrow" 170
  return {
    maker := ← ofBuffer (subarray data 8 40)
    recipient := ← ofBuffer (subarray data 40 72)
    mint := ← ofBuffer (subarray data 72 104)
    tokenProgram := ← ofBuffer (subarray data 104 136)
    escrowId := ← readBigUInt64LE data 136
  }

def fetchVault (client : IronVaultClient PublicKey) (connection : Connection PublicKey)
    (address : PublicKey) : Except Exception (VaultState PublicKey) := do
  let data ← client.fetchProgramAccount connection address "Vault" 120
  return {
    authority := ← ofBuffer (subarray data 40 72)
    nextWithdrawalId := ← readBigUInt64LE data 112
  }

end Fetch

section Escrow

def createEscrow (client : IronVaultClient PublicKey) (connection : Connection PublicKey)
    (randomBytes : Vector UInt8 8) (params : CreateEscrowParams PublicKey) :
    Except Exception (Sent PublicKey (CreateEscrowAccounts PublicKey)) := do
  let maker := client.payer
  let recipient ← asPublicKey params.recipient
  let mint ← asPublicKey params.mint
  let amount ← toBigInt params.amount "amount"
  let expiresAt ← toBigInt params.expiresAt "expiresAt"
  let escrowId ← idOr params.escrowId randomBytes "escrowId"
  let tokenProgram ← resolveTokenProgram connection mint
  let makerToken ← addressOr params.makerToken
    (.ok (deriveAssociatedTokenAddress mint maker tokenProgram))
  let escrow ← deriveEscrowAddress maker escrowId client.programId
  let escrowToken := deriveEscrowTokenAddress escrow client.programId
  let escrowIdBytes ← encodeU64 escrowId "escrowId"
  let amountBytes ← encodeU64 amount "amount"
  let expiresAtBytes ← encodeI64 expiresAt "expiresAt"
  return {
    instructions := [{
      programId := client.programId
      keys := [
        ⟨maker, true, true⟩, ⟨deriveProtocolAddress client.programId, false, false⟩,
        ⟨mint, false, false⟩, ⟨makerToken, false, true⟩, ⟨escrow, false, true⟩,
        ⟨escrowToken, false, true⟩, ⟨tokenProgram, false, false⟩, ⟨systemProgramId, false, false⟩
      ]
      data := instructionData PublicKey "create_escrow"
        [escrowIdBytes, toBuffer recipient, amountBytes, expiresAtBytes]
    }]
    accounts := { escrow, escrowToken, makerToken, tokenProgram, escrowId }
  }

def releaseEscrow (client : IronVaultClient PublicKey) (connection : Connection PublicKey)
    (params : EscrowReference PublicKey) :
    Except Exception (Sent PublicKey (ReleaseEscrowAccounts PublicKey)) := do
  let escrowId ← toBigInt params.escrowId "escrowId"
  let escrow ← addressOr params.escrow
    (deriveEscrowAddress client.payer escrowId client.programId)
  let state ← client.fetchEscrow connection escrow
  require (state.maker = client.payer) (.error "connected payer is not the escrow maker")
  let escrowToken := deriveEscrowTokenAddress escrow client.programId
  let recipientToken ← addressOr params.destinationToken
    (.ok (deriveAssociatedTokenAddress state.mint state.recipient state.tokenProgram))
  return {
    instructions :=
      createDestination params.destinationToken client.payer recipientToken state.recipient
        state.mint state.tokenProgram ++ [{
          programId := client.programId
          keys := [
            ⟨client.payer, true, false⟩, ⟨deriveProtocolAddress client.programId, false, false⟩,
            ⟨escrow, false, true⟩, ⟨state.mint, false, false⟩, ⟨escrowToken, false, true⟩,
            ⟨recipientToken, false, true⟩, ⟨state.tokenProgram, false, false⟩
          ]
          data := instructionData PublicKey "release_escrow" []
        }]
    accounts := { escrow, escrowToken, recipientToken }
  }

def refundEscrow (client : IronVaultClient PublicKey) (connection : Connection PublicKey)
    (params : EscrowReference PublicKey) :
    Except Exception (Sent PublicKey (RefundEscrowAccounts PublicKey)) := do
  let escrowId ← toBigInt params.escrowId "escrowId"
  let escrow ← addressOr params.escrow
    (.error (.error "refund requires the escrow address when caller may differ from maker"))
  let state ← client.fetchEscrow connection escrow
  require (state.escrowId = escrowId) (.error "escrowId does not match escrow state")
  let escrowToken := deriveEscrowTokenAddress escrow client.programId
  let makerDestination ← addressOr params.destinationToken
    (.ok (deriveAssociatedTokenAddress state.mint state.maker state.tokenProgram))
  return {
    instructions :=
      createDestination params.destinationToken client.payer makerDestination state.maker
        state.mint state.tokenProgram ++ [{
          programId := client.programId
          keys := [
            ⟨client.payer, true, false⟩, ⟨escrow, false, true⟩, ⟨state.mint, false, false⟩,
            ⟨escrowToken, false, true⟩, ⟨makerDestination, false, true⟩,
            ⟨state.tokenProgram, false, false⟩, ⟨sysvarClockPubkey, false, false⟩
          ]
          data := instructionData PublicKey "refund_escrow" []
        }]
    accounts := { escrow, escrowToken, makerDestination }
  }

end Escrow

section Vault

def createVault (client : IronVaultClient PublicKey) (randomBytes : Vector UInt8 8)
    (params : CreateVaultParams PublicKey) :
    Except Exception (Sent PublicKey (CreateVaultAccounts PublicKey)) := do
  let guardian ← asPublicKey params.guardian
  let vaultId ← idOr params.vaultId randomBytes "vaultId"
  let vault ← deriveVaultAddress client.payer vaultId client.programId
  let vaultIdBytes ← encodeU64 vaultId "vaultId"
  return {
    instructions := [{
      programId := client.programId
      keys := [
        ⟨client.payer, true, true⟩, ⟨deriveProtocolAddress client.programId, false, false⟩,
        ⟨vault, false, true⟩, ⟨systemProgramId, false, false⟩
      ]
      data := instructionData PublicKey "create_vault" [vaultIdBytes, toBuffer guardian]
    }]
    accounts := { vault, vaultId }
  }

def registerAsset (client : IronVaultClient PublicKey) (connection : Connection PublicKey)
    (params : VaultMintParams PublicKey) :
    Except Exception (Sent PublicKey (RegisterAssetAccounts PublicKey)) := do
  let vault ← asPublicKey params.vault
  let mint ← asPublicKey params.mint
  let tokenProgram ← resolveTokenProgram connection mint
  let vaultAsset := deriveVaultAssetAddress vault mint client.programId
  let vaultToken := deriveVaultTokenAddress vault mint client.programId
  return {
    instructions := [{
      programId := client.programId
      keys := [
        ⟨client.payer, true, true⟩, ⟨deriveProtocolAddress client.programId, false, false⟩,
        ⟨vault, false, false⟩, ⟨mint, false, false⟩, ⟨vaultAsset, false, true⟩,
        ⟨vaultToken, false, true⟩, ⟨tokenProgram, false, false⟩, ⟨systemProgramId, false, false⟩
      ]
      data := instructionData PublicKey "register_asset" []
    }]
    accounts := { vault, vaultAsset, vaultToken, tokenProgram }
  }

def deposit (client : IronVaultClient PublicKey) (connection : Connection PublicKey)
    (params : DepositParams PublicKey) :
    Except Exception (Sent PublicKey (DepositAccounts PublicKey)) := do
  let vault ← asPublicKey params.vault
  let mint ← asPublicKey params.mint
  let amount ← toBigInt params.amount "amount"
  let tokenProgram ← resolveTokenProgram connection mint
  let sourceToken ← addressOr params.sourceToken
    (.ok (deriveAssociatedTokenAddress mint client.payer tokenProgram))
  let vaultAsset := deriveVaultAssetAddress vault mint client.programId
  let vaultToken := deriveVaultTokenAddress vault mint client.programId
  let amountBytes ← encodeU64 amount "amount"
  return {
    instructions := [{
      programId := client.programId
      keys := [
        ⟨client.payer, true, false⟩, ⟨vault, false, false⟩, ⟨mint, false, false⟩,
        ⟨vaultAsset, false, false⟩, ⟨sourceToken, false, true⟩, ⟨vaultToken, false, true⟩,
        ⟨tokenProgram, false, false⟩
      ]
      data := instructionData PublicKey "deposit" [amountBytes]
    }]
    accounts := { vault, vaultAsset, vaultToken, sourceToken }
  }

/--
The part of `requestWithdrawal` behind the read of the vault.
-/
def submitWithdrawal (client : IronVaultClient PublicKey)
    (params : RequestWithdrawalParams PublicKey) (vault mint recipient : PublicKey) (amount : Int)
    (tokenProgram : PublicKey) (vaultState : VaultState PublicKey) :
    Except Exception (Sent PublicKey (RequestWithdrawalAccounts PublicKey)) := do
  let recipientToken ← addressOr params.recipientToken
    (.ok (deriveAssociatedTokenAddress mint recipient tokenProgram))
  let vaultAsset := deriveVaultAssetAddress vault mint client.programId
  let withdrawalRequest ← deriveWithdrawalAddress vault vaultState.nextWithdrawalId client.programId
  let role :=
    if vaultState.authority ≠ client.payer then
      [⟨deriveRoleAddress vault client.payer client.programId, false, false⟩]
    else
      []
  let amountBytes ← encodeU64 amount "amount"
  return {
    instructions :=
      createDestination params.recipientToken client.payer recipientToken recipient mint
        tokenProgram ++ [{
          programId := client.programId
          keys := [
            ⟨client.payer, true, true⟩, ⟨deriveProtocolAddress client.programId, false, false⟩,
            ⟨vault, false, true⟩, ⟨mint, false, false⟩, ⟨vaultAsset, false, false⟩,
            ⟨recipientToken, false, false⟩, ⟨withdrawalRequest, false, true⟩,
            ⟨systemProgramId, false, false⟩, ⟨sysvarClockPubkey, false, false⟩
          ] ++ role
          data := instructionData PublicKey "request_withdrawal" [amountBytes]
        }]
    accounts := {
      vault, vaultAsset, withdrawalRequest, recipientToken
      withdrawalId := vaultState.nextWithdrawalId
    }
  }

def requestWithdrawal (client : IronVaultClient PublicKey) (connection : Connection PublicKey)
    (params : RequestWithdrawalParams PublicKey) :
    Except Exception (Sent PublicKey (RequestWithdrawalAccounts PublicKey)) := do
  let vault ← asPublicKey params.vault
  let mint ← asPublicKey params.mint
  let recipient ← asPublicKey params.recipient
  let amount ← toBigInt params.amount "amount"
  let tokenProgram ← resolveTokenProgram connection mint
  let vaultState ← client.fetchVault connection vault
  client.submitWithdrawal params vault mint recipient amount tokenProgram vaultState

end Vault

end IronVaultClient
end IronVault.Client
