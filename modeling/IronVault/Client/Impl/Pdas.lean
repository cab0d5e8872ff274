import IronVault.Client.Impl.Encoding

/-!
This module contains the addresses that the client derives: those of the program, and the associated
token accounts.
-/

namespace IronVault.Client

variable {PublicKey : Type} [Borsh PublicKey] [Web3 PublicKey]

open Web3

def utf8 (text : String) : List UInt8 :=
  text.toUTF8.toList

def deriveProtocolAddress (programId : PublicKey) : PublicKey :=
  findProgramAddressSync [utf8 "protocol"] programId

def deriveEscrowAddress (maker : PublicKey) (escrowId : Int) (programId : PublicKey) :
    Except Exception PublicKey := do
  let id ← encodeU64 escrowId "escrowId"
  return findProgramAddressSync [utf8 "escrow", toBuffer maker, id] programId

def deriveEscrowTokenAddress (escrow programId : PublicKey) : PublicKey :=
  findProgramAddressSync [utf8 "escrow_token", toBuffer escrow] programId

def deriveVaultAddress (authority : PublicKey) (vaultId : Int) (programId : PublicKey) :
    Except Exception PublicKey := do
  let id ← encodeU64 vaultId "vaultId"
  return findProgramAddressSync [utf8 "vault", toBuffer authority, id] programId

def deriveVaultAssetAddress (vault mint programId : PublicKey) : PublicKey :=
  findProgramAddressSync [utf8 "vault_asset", toBuffer vault, toBuffer mint] programId

def deriveVaultTokenAddress (vault mint programId : PublicKey) : PublicKey :=
  findProgramAddressSync [utf8 "vault_token", toBuffer vault, toBuffer mint] programId

def deriveRoleAddress (vault principal programId : PublicKey) : PublicKey :=
  findProgramAddressSync [utf8 "role", toBuffer vault, toBuffer principal] programId

def deriveWithdrawalAddress (vault : PublicKey) (withdrawalId : Int) (programId : PublicKey) :
    Except Exception PublicKey := do
  let id ← encodeU64 withdrawalId "withdrawalId"
  return findProgramAddressSync [utf8 "withdrawal", toBuffer vault, id] programId

def deriveAssociatedTokenAddress (mint owner tokenProgram : PublicKey) : PublicKey :=
  findProgramAddressSync [toBuffer owner, toBuffer tokenProgram, toBuffer mint]
    associatedTokenProgramAddress

def createAssociatedTokenAccountIdempotentInstruction
    (payer associatedToken owner mint tokenProgram : PublicKey) :
    TransactionInstruction PublicKey where
  programId := associatedTokenProgramAddress
  keys := [
    ⟨payer, true, true⟩,
    ⟨associatedToken, false, true⟩,
    ⟨owner, false, false⟩,
    ⟨mint, false, false⟩,
    ⟨systemProgramId, false, false⟩,
    ⟨tokenProgram, false, false⟩
  ]
  data := [1]

end IronVault.Client
