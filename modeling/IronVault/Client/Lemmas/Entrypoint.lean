import IronVault.Client.Impl.Encoding
import IronVault.Client.Impl.Entrypoint

/-!
This module contains what the program reads from the instructions that the client sends.
-/

namespace IronVault.Client

variable {PublicKey : Type} [Web3 PublicKey]

theorem anchorDiscriminator_global (name : String) :
    anchorDiscriminator PublicKey "global" name =
      TransactionInstruction.discriminator PublicKey name := by
  unfold anchorDiscriminator TransactionInstruction.discriminator subarray
  rw [List.drop_zero]
  rfl

namespace TransactionInstruction

variable {ix : TransactionInstruction PublicKey}

/--
The data is the discriminator of the handler, followed by exactly the bytes of its arguments.
-/
def Carries {α : Type} [Borsh α] (ix : TransactionInstruction PublicKey) (name : String)
    (arguments : α) : Prop :=
  ix.data.take 8 = discriminator PublicKey name ∧
    Borsh.deserialize (ix.data.drop 8) = some (arguments, [])

section Carries

variable {name : String} {α : Type} [Borsh α] {value : α}

theorem carries_of_data {fields : List (List UInt8)}
    (hdata : ix.data = instructionData PublicKey name fields)
    (hfields : fields.flatten = Borsh.serialize value) : ix.Carries name value := by
  have hlength : (discriminator PublicKey name).length = 8 := by
    simp [discriminator]
  have hread := Borsh.deserialize_append value []
  rw [List.append_nil] at hread
  unfold Carries
  rw [hdata, instructionData, anchorDiscriminator_global, List.take_left' hlength,
    List.drop_left' hlength, hfields]
  exact ⟨rfl, hread⟩

theorem Carries.calls_eq (h : ix.Carries name value) : ix.calls name = true := by
  unfold calls
  simpa using h.1

theorem Carries.arguments_eq (h : ix.Carries name value) : ix.arguments α = some value := by
  unfold arguments
  rw [h.2]
  rfl

end Carries

section Read

variable {rest : List PublicKey} {escrowId vaultId amount : UInt64} {expiresAt : Int64}

theorem releaseEscrow?_eq
    {maker protocolConfig escrow mint escrowToken recipientToken tokenProgram : PublicKey}
    (h : ix.Carries "release_escrow" ())
    (haccounts : ix.accounts = maker :: protocolConfig :: escrow :: mint :: escrowToken ::
      recipientToken :: tokenProgram :: rest) :
    ix.releaseEscrow? = some (.releaseEscrow
      { maker, protocolConfig, escrow, mint, escrowToken, recipientToken, tokenProgram }) := by
  unfold releaseEscrow?
  simp [h.calls_eq, haccounts, guard]

theorem refundEscrow?_eq
    {caller escrow mint escrowToken makerDestination tokenProgram clock : PublicKey}
    (h : ix.Carries "refund_escrow" ())
    (haccounts : ix.accounts = caller :: escrow :: mint :: escrowToken :: makerDestination ::
      tokenProgram :: clock :: rest) :
    ix.refundEscrow? = some (.refundEscrow
      { caller, escrow, mint, escrowToken, makerDestination, tokenProgram }) := by
  unfold refundEscrow?
  simp [h.calls_eq, haccounts, guard]

theorem deposit?_eq
    {depositor vault mint vaultAsset sourceToken vaultToken tokenProgram : PublicKey}
    (h : ix.Carries "deposit" amount)
    (haccounts : ix.accounts = depositor :: vault :: mint :: vaultAsset :: sourceToken ::
      vaultToken :: tokenProgram :: rest) :
    ix.deposit? = some (.deposit
      { depositor, vault, mint, vaultAsset, sourceToken, vaultToken, tokenProgram } amount) := by
  unfold deposit?
  simp [h.calls_eq, h.arguments_eq, haccounts, guard]

theorem requestWithdrawal?_eq
    {proposer protocolConfig vault mint vaultAsset recipientToken withdrawalRequest systemProgram
      clock : PublicKey}
    (h : ix.Carries "request_withdrawal" amount)
    (haccounts : ix.accounts = proposer :: protocolConfig :: vault :: mint :: vaultAsset ::
      recipientToken :: withdrawalRequest :: systemProgram :: clock :: rest) :
    ix.requestWithdrawal? = some (.requestWithdrawal {
      proposer, protocolConfig, vault, mint, vaultAsset, recipientToken, withdrawalRequest
      remainingAccounts := rest
    } amount) := by
  unfold requestWithdrawal?
  simp [h.calls_eq, h.arguments_eq, haccounts, guard]

variable [Borsh PublicKey]

theorem createEscrow?_eq
    {maker protocolConfig mint makerToken escrow escrowToken tokenProgram systemProgram recipient :
      PublicKey}
    (h : ix.Carries "create_escrow" (escrowId, recipient, amount, expiresAt))
    (haccounts : ix.accounts = maker :: protocolConfig :: mint :: makerToken :: escrow ::
      escrowToken :: tokenProgram :: systemProgram :: rest) :
    ix.createEscrow? = some (.createEscrow
      { maker, protocolConfig, mint, makerToken, escrow, escrowToken, tokenProgram }
      escrowId recipient amount expiresAt) := by
  unfold createEscrow?
  simp [h.calls_eq, h.arguments_eq, haccounts, guard]

theorem createVault?_eq {authority protocolConfig vault systemProgram guardian : PublicKey}
    (h : ix.Carries "create_vault" (vaultId, guardian))
    (haccounts : ix.accounts = authority :: protocolConfig :: vault :: systemProgram :: rest) :
    ix.createVault? = some (.createVault { authority, protocolConfig, vault } vaultId guardian) := by
  unfold createVault?
  simp [h.calls_eq, h.arguments_eq, haccounts, guard]

end Read

end TransactionInstruction
end IronVault.Client
