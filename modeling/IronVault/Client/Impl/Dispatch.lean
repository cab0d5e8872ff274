import IronVault.Client.Impl.Session
import IronVault.Program.Impl.Locks

/-!
This module contains the program as a transaction meets it: the dispatch over all of its handlers, the
privileges that Anchor asks of the accounts, and a transaction as the methods of the client send it.
-/

namespace IronVault.Client

namespace TransactionInstruction

variable {PublicKey : Type} [Borsh PublicKey] [Web3 PublicKey]

def handlers : List (String × (TransactionInstruction PublicKey → Option (Instruction PublicKey))) := [
  ("initialize", dispatchInitialize?),
  ("initialize_protocol", initializeProtocol?),
  ("set_protocol_pause", setProtocolPause?),
  ("create_escrow", createEscrow?),
  ("release_escrow", releaseEscrow?),
  ("refund_escrow", refundEscrow?),
  ("create_vault", createVault?),
  ("set_vault_authority", setVaultAuthority?),
  ("pause_vault", pauseVault?),
  ("unpause_vault", unpauseVault?),
  ("register_asset", registerAsset?),
  ("deposit", deposit?),
  ("withdraw", withdraw?),
  ("grant_role", grantRole?),
  ("revoke_role", revokeRole?),
  ("update_limits", updateLimits?),
  ("request_withdrawal", requestWithdrawal?),
  ("execute_withdrawal", executeWithdrawal?),
  ("cancel_withdrawal", cancelWithdrawal?)
]

/--
The handler is the first one whose discriminator is in front of the data.
-/
def dispatch? (ix : TransactionInstruction PublicKey) : Option (Instruction PublicKey) :=
  (handlers.find? fun handler => ix.calls handler.1).bind fun handler => handler.2 ix

variable (PublicKey) in
/--
No two handlers have the same discriminator, so that the order of the handlers does not matter.
-/
def DistinctHandlers : Prop :=
  ((@handlers PublicKey _ _).map fun handler => discriminator PublicKey handler.1).Nodup

end TransactionInstruction

section Transaction

variable {Pubkey : Type} [DecidableEq Pubkey] [Solana Pubkey] [Borsh Pubkey] [Web3 Pubkey]

/--
What Anchor checks of the flags of the accounts: the signer has signed, and an account that is
declared as mutable is writable. An account of a transaction has its flags in all instructions.
-/
structure Grants (keys : List (AccountMeta Pubkey)) (instruction : Instruction Pubkey) : Prop where
  signs : ∀ signer ∈ instruction.signer, ∃ key ∈ keys, key.pubkey = signer ∧ key.isSigner
  writes : ∀ account ∈ instruction.writable, ∃ key ∈ keys, key.pubkey = account ∧ key.isWritable

inductive Transacts (programId : Pubkey) (keys : List (AccountMeta Pubkey)) (now : Int64) :
    State Pubkey → List (TransactionInstruction Pubkey) → State Pubkey → Prop where
  | nil {s : State Pubkey} : Transacts programId keys now s [] s
  | program {s s₁ s' : State Pubkey} {ix : TransactionInstruction Pubkey}
      {ixs : List (TransactionInstruction Pubkey)} {instruction : Instruction Pubkey}
      {event : Option (IronVaultEvent Pubkey)} (hprogram : ix.programId = programId)
      (hread : ix.dispatch? = some instruction) (hgranted : Grants keys instruction)
      (hok : process s now instruction = .ok (s₁, event))
      (hrest : Transacts programId keys now s₁ ixs s') : Transacts programId keys now s (ix :: ixs) s'
  -- An instruction of another program does what third parties can do.
  | other {s s' : State Pubkey} {token : Pubkey → Option (TokenAccount Pubkey)}
      {mint : Pubkey → Option (Mint Pubkey)} {ix : TransactionInstruction Pubkey}
      {ixs : List (TransactionInstruction Pubkey)} (hprogram : ix.programId ≠ programId)
      (h : ThirdParty s token mint)
      (hrest : Transacts programId keys now { s with token, mint } ixs s') :
      Transacts programId keys now s (ix :: ixs) s'

def transactionKeys (ixs : List (TransactionInstruction Pubkey)) : List (AccountMeta Pubkey) :=
  ixs.flatMap TransactionInstruction.keys

/--
A transaction that is confirmed. Whoever signs it has a private key, and all of its instructions
succeed.
-/
structure Confirmed (programId : Pubkey) (now : Int64) (s : State Pubkey)
    (ixs : List (TransactionInstruction Pubkey)) (s' : State Pubkey) : Prop where
  signed : ∀ key ∈ transactionKeys ixs, key.isSigner → ¬ IsProgramAddress key.pubkey
  executed : Transacts programId (transactionKeys ixs) now s ixs s'

end Transaction

section Calls

variable {Pubkey : Type} [DecidableEq Pubkey] [Solana Pubkey] [Borsh Pubkey] [Web3 Pubkey]

inductive Method (Pubkey : Type) where
  | createEscrow (params : CreateEscrowParams Pubkey)
  | releaseEscrow (params : EscrowReference Pubkey)
  | refundEscrow (params : EscrowReference Pubkey)
  | createVault (params : CreateVaultParams Pubkey)
  | registerAsset (params : VaultMintParams Pubkey)
  | deposit (params : DepositParams Pubkey)
  | requestWithdrawal (params : RequestWithdrawalParams Pubkey)

/--
What a method was asked for and the accounts that it returned.
-/
inductive Receipt (Pubkey : Type) where
  | createEscrow (params : CreateEscrowParams Pubkey) (accounts : CreateEscrowAccounts Pubkey)
  | releaseEscrow (params : EscrowReference Pubkey) (accounts : ReleaseEscrowAccounts Pubkey)
  | refundEscrow (params : EscrowReference Pubkey) (accounts : RefundEscrowAccounts Pubkey)
  | createVault (params : CreateVaultParams Pubkey) (accounts : CreateVaultAccounts Pubkey)
  | registerAsset (params : VaultMintParams Pubkey) (accounts : RegisterAssetAccounts Pubkey)
  | deposit (params : DepositParams Pubkey) (accounts : DepositAccounts Pubkey)
  | requestWithdrawal (params : RequestWithdrawalParams Pubkey)
      (accounts : RequestWithdrawalAccounts Pubkey)

def IronVaultClient.invoke (client : IronVaultClient Pubkey) (connection : Connection Pubkey)
    (randomBytes : Vector UInt8 8) : Method Pubkey → Except Exception (Sent Pubkey (Receipt Pubkey))
  | .createEscrow params => do
    let sent ← client.createEscrow connection randomBytes params
    return ⟨sent.instructions, .createEscrow params sent.accounts⟩
  | .releaseEscrow params => do
    let sent ← client.releaseEscrow connection params
    return ⟨sent.instructions, .releaseEscrow params sent.accounts⟩
  | .refundEscrow params => do
    let sent ← client.refundEscrow connection params
    return ⟨sent.instructions, .refundEscrow params sent.accounts⟩
  | .createVault params => do
    let sent ← client.createVault randomBytes params
    return ⟨sent.instructions, .createVault params sent.accounts⟩
  | .registerAsset params => do
    let sent ← client.registerAsset connection params
    return ⟨sent.instructions, .registerAsset params sent.accounts⟩
  | .deposit params => do
    let sent ← client.deposit connection params
    return ⟨sent.instructions, .deposit params sent.accounts⟩
  | .requestWithdrawal params => do
    let sent ← client.requestWithdrawal connection params
    return ⟨sent.instructions, .requestWithdrawal params sent.accounts⟩

/--
The chain, and the receipts that clients got so far together with their payers.
-/
structure Deployment (Pubkey : Type) where
  chain : State Pubkey
  receipts : List (Pubkey × Receipt Pubkey)

def Deployment.empty : Deployment Pubkey where
  chain := .empty
  receipts := []

inductive DeploymentAction (Pubkey : Type) where
  | chain (action : Action Pubkey)
  | submit (method : Method Pubkey) (now : Int64)

/--
Clients call their methods between any other steps of the chain. What the connection has answered
may be out of date or wrong.
-/
inductive DeploymentStep (programId : Pubkey) :
    Deployment Pubkey → DeploymentAction Pubkey → Deployment Pubkey → Prop where
  | chain {d : Deployment Pubkey} {a : Action Pubkey} {s : State Pubkey} (h : Step d.chain a s) :
      DeploymentStep programId d (.chain a) { d with chain := s }
  | submit {d : Deployment Pubkey} {client : IronVaultClient Pubkey} {connection : Connection Pubkey}
      {randomBytes : Vector UInt8 8} {method : Method Pubkey} {now : Int64}
      {sent : Sent Pubkey (Receipt Pubkey)} {s : State Pubkey}
      (hprogram : client.programId = programId)
      (hsent : client.invoke connection randomBytes method = .ok sent)
      (hconfirmed : Confirmed programId now d.chain sent.instructions s) :
      DeploymentStep programId d (.submit method now)
        ⟨s, d.receipts ++ [(client.payer, sent.accounts)]⟩

end Calls

end IronVault.Client
