import IronVault.Client.Impl.Client
import IronVault.Client.Impl.Entrypoint

/-!
This module contains calls of `requestWithdrawal` next to the chain. A call reads the vault in one
step and submits its transaction in a later one; in between, other calls and arbitrary instructions
run.
-/

namespace IronVault.Client

variable {Pubkey : Type} [DecidableEq Pubkey] [Solana Pubkey] [Borsh Pubkey] [Web3 Pubkey]

open Web3

/--
The seeds of an address as the program hands them to the runtime.
-/
def seedBuffers : Seeds Pubkey → List (List UInt8)
  | .protocol => [utf8 "protocol"]
  | .escrow maker escrowId => [utf8 "escrow", Borsh.serialize maker, Borsh.serialize escrowId]
  | .escrowToken escrow => [utf8 "escrow_token", Borsh.serialize escrow]
  | .vault authority vaultId => [utf8 "vault", Borsh.serialize authority, Borsh.serialize vaultId]
  | .vaultAsset vault mint => [utf8 "vault_asset", Borsh.serialize vault, Borsh.serialize mint]
  | .vaultToken vault mint => [utf8 "vault_token", Borsh.serialize vault, Borsh.serialize mint]
  | .role vault principal => [utf8 "role", Borsh.serialize vault, Borsh.serialize principal]
  | .withdrawal vault withdrawalId =>
    [utf8 "withdrawal", Borsh.serialize vault, Borsh.serialize withdrawalId]

/--
web3.js and the runtime derive the same addresses for the program.
-/
def DerivesAddresses (programId : Pubkey) : Prop :=
  ∀ seeds : Seeds Pubkey, findProgramAddressSync (seedBuffers seeds) programId = address seeds

/--
A call of `requestWithdrawal` that has resolved its parameters and the token program of the mint, and
is about to read the vault.
-/
structure Call (Pubkey : Type) [Web3 Pubkey] where
  client : IronVaultClient Pubkey
  params : RequestWithdrawalParams Pubkey
  vault : Pubkey
  mint : Pubkey
  recipient : Pubkey
  amount : Int
  tokenProgram : Pubkey
  vault_eq : asPublicKey params.vault = .ok vault
  mint_eq : asPublicKey params.mint = .ok mint
  recipient_eq : asPublicKey params.recipient = .ok recipient
  amount_eq : toBigInt params.amount "amount" = .ok amount

def Call.submit (call : Call Pubkey) (vaultState : VaultState Pubkey) :
    Except Exception (Sent Pubkey (RequestWithdrawalAccounts Pubkey)) :=
  call.client.submitWithdrawal call.params call.vault call.mint call.recipient call.amount
    call.tokenProgram vaultState

omit [Solana Pubkey] in
theorem Call.requestWithdrawal_eq (call : Call Pubkey) {connection : Connection Pubkey}
    {vaultState : VaultState Pubkey}
    (hmint : IronVaultClient.resolveTokenProgram connection call.mint = .ok call.tokenProgram)
    (hvault : call.client.fetchVault connection call.vault = .ok vaultState) :
    call.client.requestWithdrawal connection call.params = call.submit vaultState := by
  unfold IronVaultClient.requestWithdrawal
  rw [call.vault_eq, call.mint_eq, call.recipient_eq, call.amount_eq]
  simp only [bind, Except.bind, hmint, hvault]
  rfl

/--
A transaction that succeeds: its instructions succeed one after the other. Instructions of other
programs do what third parties can do. A transaction in which one fails has no effect at all.
-/
inductive Executes (programId : Pubkey) (now : Int64) :
    State Pubkey → List (TransactionInstruction Pubkey) → State Pubkey → Prop where
  | nil {s : State Pubkey} : Executes programId now s [] s
  | program {s s₁ s' : State Pubkey} {ix : TransactionInstruction Pubkey}
      {ixs : List (TransactionInstruction Pubkey)} {instruction : Instruction Pubkey}
      {event : Option (IronVaultEvent Pubkey)} (hprogram : ix.programId = programId)
      (hread : ix.requestWithdrawal? = some instruction)
      (hsigner : ∀ signer ∈ instruction.signer, ¬ IsProgramAddress signer)
      (hok : process s now instruction = .ok (s₁, event))
      (hrest : Executes programId now s₁ ixs s') : Executes programId now s (ix :: ixs) s'
  | other {s s' : State Pubkey} {token : Pubkey → Option (TokenAccount Pubkey)}
      {mint : Pubkey → Option (Mint Pubkey)} {ix : TransactionInstruction Pubkey}
      {ixs : List (TransactionInstruction Pubkey)} (hprogram : ix.programId ≠ programId)
      (h : ThirdParty s token mint) (hrest : Executes programId now { s with token, mint } ixs s') :
      Executes programId now s (ix :: ixs) s'

inductive Phase (Pubkey : Type) [Web3 Pubkey] where
  | idle
  | read (call : Call Pubkey) (vaultState : VaultState Pubkey)
  | returned (call : Call Pubkey) (accounts : RequestWithdrawalAccounts Pubkey)
  | failed (call : Call Pubkey)

structure World (ι Pubkey : Type) [Web3 Pubkey] where
  chain : State Pubkey
  calls : ι → Phase Pubkey

def World.empty {ι : Type} : World ι Pubkey where
  chain := State.empty
  calls _ := .idle

inductive WorldAction (ι Pubkey : Type) where
  | chain (action : Action Pubkey)
  | read (c : ι)
  | submit (c : ι) (now : Int64)

section Step

variable {ι : Type} [DecidableEq ι]

inductive WorldStep (programId : Pubkey) :
    World ι Pubkey → WorldAction ι Pubkey → World ι Pubkey → Prop where
  | chain {w : World ι Pubkey} {a : Action Pubkey} {s : State Pubkey} (h : Step w.chain a s) :
      WorldStep programId w (.chain a) { w with chain := s }
  | read {w : World ι Pubkey} {c : ι} {call : Call Pubkey} {vault : Vault Pubkey}
      (hidle : w.calls c = .idle) (hprogram : call.client.programId = programId)
      (hvault : w.chain.vault call.vault = some vault) :
      WorldStep programId w (.read c) { w with
        calls := Function.update w.calls c
          (.read call ⟨vault.authority, vault.nextWithdrawalId.toNat⟩) }
  | accepted {w : World ι Pubkey} {c : ι} {now : Int64} {call : Call Pubkey}
      {vaultState : VaultState Pubkey} {sent : Sent Pubkey (RequestWithdrawalAccounts Pubkey)}
      {s : State Pubkey} (hread : w.calls c = .read call vaultState)
      (hsent : call.submit vaultState = .ok sent)
      (hexecutes : Executes programId now w.chain sent.instructions s) :
      WorldStep programId w (.submit c now) {
        chain := s
        calls := Function.update w.calls c (.returned call sent.accounts)
      }
  -- The call throws, the transaction fails, or it never reaches the chain.
  | rejected {w : World ι Pubkey} {c : ι} {now : Int64} {call : Call Pubkey}
      {vaultState : VaultState Pubkey} (hread : w.calls c = .read call vaultState) :
      WorldStep programId w (.submit c now) { w with
        calls := Function.update w.calls c (.failed call) }

end Step

end IronVault.Client
