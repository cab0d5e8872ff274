import IronVault.Client.Impl.Client
import IronVault.Client.Lemmas.Encoding
import IronVault.Client.Lemmas.Entrypoint
import IronVault.Client.Layout

/-!
This module contains that the program decodes the data of an instruction to the arguments that the
caller of the client gave, or that the client sends nothing.
-/

namespace IronVault.Client

/--
The integer that the caller means by an optional id: without one, the client draws it.
-/
def DenotesId (id : Option Integer) (randomBytes : Vector UInt8 8) (n : Int) : Prop :=
  match id with
  | none => n = randomU64 randomBytes
  | some id => Timestamp.Denotes id n

theorem DenotesId.denotes {id : Option Integer} {randomBytes : Vector UInt8 8} {n : Int}
    (h : DenotesId id randomBytes n) : ∀ given ∈ id, Timestamp.Denotes given n := by
  intro given hgiven
  rw [Option.mem_def] at hgiven
  subst hgiven
  exact h

theorem denotesId_of_idOr {id : Option Integer} {randomBytes : Vector UInt8 8} {field : String}
    {n : Int} (h : idOr id randomBytes field = .ok n) : DenotesId id randomBytes n := by
  unfold idOr at h
  unfold DenotesId
  split at h
  . rw [Except.ok.injEq] at h
    exact h.symm
  . exact toBigInt_denotes h

namespace IronVaultClient

variable {PublicKey : Type} [DecidableEq PublicKey] [Borsh PublicKey] [Web3 PublicKey]
variable {client : IronVaultClient PublicKey} {connection : Connection PublicKey}
variable {randomBytes : Vector UInt8 8}

open Web3 TransactionInstruction

section Statement

/-!
What the four methods hand to the program. The data behind the discriminator is consumed by the
arguments of the handler, these are what the caller asked for, and an id is that of the addresses.
-/

def CreateEscrowDecoded (client : IronVaultClient PublicKey) (randomBytes : Vector UInt8 8)
    (params : CreateEscrowParams PublicKey)
    (sent : Sent PublicKey (CreateEscrowAccounts PublicKey)) : Prop :=
  ∃ ix ctx, ∃ (escrowId amount : UInt64) (expiresAt : Int64) (recipient : PublicKey),
    sent.instructions = [ix] ∧
    ix.Carries "create_escrow" (escrowId, recipient, amount, expiresAt) ∧
    ix.createEscrow? = some (.createEscrow ctx escrowId recipient amount expiresAt) ∧
    DenotesId params.escrowId randomBytes escrowId.toNat ∧
    asPublicKey params.recipient = .ok recipient ∧
    Timestamp.Denotes params.amount amount.toNat ∧
    params.expiresAt.Denotes expiresAt.toInt ∧
    ctx.escrow = findProgramAddressSync
      [utf8 "escrow", toBuffer client.payer, Borsh.serialize escrowId] client.programId ∧
    ctx.escrowToken = findProgramAddressSync
      [utf8 "escrow_token", toBuffer ctx.escrow] client.programId ∧
    sent.accounts.escrowId = escrowId.toNat

def CreateVaultDecoded (client : IronVaultClient PublicKey) (randomBytes : Vector UInt8 8)
    (params : CreateVaultParams PublicKey) (sent : Sent PublicKey (CreateVaultAccounts PublicKey)) :
    Prop :=
  ∃ ix ctx, ∃ (vaultId : UInt64) (guardian : PublicKey),
    sent.instructions = [ix] ∧
    ix.Carries "create_vault" (vaultId, guardian) ∧
    ix.createVault? = some (.createVault ctx vaultId guardian) ∧
    DenotesId params.vaultId randomBytes vaultId.toNat ∧
    asPublicKey params.guardian = .ok guardian ∧
    ctx.vault = findProgramAddressSync
      [utf8 "vault", toBuffer client.payer, Borsh.serialize vaultId] client.programId ∧
    sent.accounts.vaultId = vaultId.toNat

def DepositDecoded (params : DepositParams PublicKey)
    (sent : Sent PublicKey (DepositAccounts PublicKey)) : Prop :=
  ∃ ix ctx, ∃ amount : UInt64,
    sent.instructions = [ix] ∧
    ix.Carries "deposit" amount ∧
    ix.deposit? = some (.deposit ctx amount) ∧
    Timestamp.Denotes params.amount amount.toNat

def RequestWithdrawalDecoded (client : IronVaultClient PublicKey)
    (params : RequestWithdrawalParams PublicKey)
    (sent : Sent PublicKey (RequestWithdrawalAccounts PublicKey)) : Prop :=
  ∃ setup ix ctx, ∃ amount withdrawalId : UInt64,
    sent.instructions = setup ++ [ix] ∧
    (∀ instruction ∈ setup, instruction.programId = associatedTokenProgramAddress) ∧
    ix.Carries "request_withdrawal" amount ∧
    ix.requestWithdrawal? = some (.requestWithdrawal ctx amount) ∧
    Timestamp.Denotes params.amount amount.toNat ∧
    ctx.withdrawalRequest = findProgramAddressSync
      [utf8 "withdrawal", toBuffer ctx.vault, Borsh.serialize withdrawalId] client.programId ∧
    sent.accounts.withdrawalId = withdrawalId.toNat

end Statement

theorem createEscrow_decoded {params : CreateEscrowParams PublicKey}
    {sent : Sent PublicKey (CreateEscrowAccounts PublicKey)}
    (h : client.createEscrow connection randomBytes params = .ok sent) :
    client.CreateEscrowDecoded randomBytes params sent := by
  unfold createEscrow deriveEscrowAddress at h
  simp only [Except.bind_eq_ok_iff, Except.pure_eq_ok_iff] at h
  obtain ⟨recipient, hrecipient, mint, -, amount, hamount, expiresAt, hexpiresAt, escrowId, hescrowId,
    tokenProgram, -, makerToken, -, escrow, ⟨seed, hseed, rfl⟩, escrowIdBytes, hescrowIdBytes,
    amountBytes, hamountBytes, expiresAtBytes, hexpiresAtBytes, rfl⟩ := h
  obtain ⟨escrowId, rfl, rfl⟩ := encodeU64_eq_ok.mp hseed
  obtain ⟨amount, rfl, rfl⟩ := encodeU64_eq_ok.mp hamountBytes
  obtain ⟨expiresAt, rfl, rfl⟩ := encodeI64_eq_ok.mp hexpiresAtBytes
  -- The id is encoded twice, once for the address and once for the data.
  rw [encodeU64_toNat, Except.ok.injEq] at hescrowIdBytes
  subst hescrowIdBytes
  have hdata : [Borsh.serialize escrowId, toBuffer recipient, Borsh.serialize amount,
      Borsh.serialize expiresAt].flatten = Borsh.serialize (escrowId, recipient, amount, expiresAt) := by
    simp [toBuffer, Borsh.serialize_prod]
  refine ⟨_, _, escrowId, amount, expiresAt, recipient, rfl, carries_of_data rfl hdata,
    createEscrow?_eq (carries_of_data rfl hdata) rfl, denotesId_of_idOr hescrowId, hrecipient,
    toBigInt_denotes hamount, toBigInt_denotes hexpiresAt, rfl, rfl, rfl⟩

omit [DecidableEq PublicKey] in
theorem createVault_decoded {params : CreateVaultParams PublicKey}
    {sent : Sent PublicKey (CreateVaultAccounts PublicKey)}
    (h : client.createVault randomBytes params = .ok sent) :
    client.CreateVaultDecoded randomBytes params sent := by
  unfold createVault deriveVaultAddress at h
  simp only [Except.bind_eq_ok_iff, Except.pure_eq_ok_iff] at h
  obtain ⟨guardian, hguardian, vaultId, hvaultId, vault, ⟨seed, hseed, rfl⟩, vaultIdBytes,
    hvaultIdBytes, rfl⟩ := h
  obtain ⟨vaultId, rfl, rfl⟩ := encodeU64_eq_ok.mp hseed
  rw [encodeU64_toNat, Except.ok.injEq] at hvaultIdBytes
  subst hvaultIdBytes
  have hdata : [Borsh.serialize vaultId, toBuffer guardian].flatten =
      Borsh.serialize (vaultId, guardian) := by
    simp [toBuffer, Borsh.serialize_prod]
  exact ⟨_, _, vaultId, guardian, rfl, carries_of_data rfl hdata,
    createVault?_eq (carries_of_data rfl hdata) rfl, denotesId_of_idOr hvaultId, hguardian, rfl, rfl⟩

theorem deposit_decoded {params : DepositParams PublicKey}
    {sent : Sent PublicKey (DepositAccounts PublicKey)}
    (h : client.deposit connection params = .ok sent) : DepositDecoded params sent := by
  unfold deposit at h
  simp only [Except.bind_eq_ok_iff, Except.pure_eq_ok_iff] at h
  obtain ⟨vault, -, mint, -, amount, hamount, tokenProgram, -, sourceToken, -, amountBytes,
    hamountBytes, rfl⟩ := h
  obtain ⟨amount, rfl, rfl⟩ := encodeU64_eq_ok.mp hamountBytes
  have hdata : [Borsh.serialize amount].flatten = Borsh.serialize amount := by simp
  exact ⟨_, _, amount, rfl, carries_of_data rfl hdata, deposit?_eq (carries_of_data rfl hdata) rfl,
    toBigInt_denotes hamount⟩

section Destination

omit [DecidableEq PublicKey] [Borsh PublicKey]

variable {address : Option (Address PublicKey)}
variable {payer associatedToken owner mint tokenProgram : PublicKey}
variable {ix : TransactionInstruction PublicKey}

theorem eq_of_mem_createDestination
    (h : ix ∈ createDestination address payer associatedToken owner mint tokenProgram) :
    ix = createAssociatedTokenAccountIdempotentInstruction payer associatedToken owner mint
      tokenProgram := by
  unfold createDestination at h
  split at h
  . simp at h
  . exact List.mem_singleton.mp h

theorem programId_of_mem_createDestination
    (h : ix ∈ createDestination address payer associatedToken owner mint tokenProgram) :
    ix.programId = associatedTokenProgramAddress := by
  rw [eq_of_mem_createDestination h]
  rfl

/--
The data is a single byte, which is no discriminator.
-/
theorem requestWithdrawal?_of_mem_createDestination
    (h : ix ∈ createDestination address payer associatedToken owner mint tokenProgram) :
    ix.requestWithdrawal? = none := by
  have hcalls : ix.calls "request_withdrawal" = false := by
    rw [eq_of_mem_createDestination h]
    unfold calls
    rw [decide_eq_false_iff_not]
    intro heq
    have hlength := congrArg List.length heq
    simp [discriminator, createAssociatedTokenAccountIdempotentInstruction] at hlength
  unfold requestWithdrawal?
  simp [hcalls, guard]

end Destination

/--
Everything that `requestWithdrawal` sends after it has read the vault.
-/
theorem submitWithdrawal_decoded {params : RequestWithdrawalParams PublicKey}
    {vault mint recipient tokenProgram : PublicKey} {amount : Int}
    {vaultState : VaultState PublicKey}
    {sent : Sent PublicKey (RequestWithdrawalAccounts PublicKey)}
    (h : client.submitWithdrawal params vault mint recipient amount tokenProgram vaultState =
      .ok sent) :
    ∃ setup ix ctx, ∃ amount' withdrawalId : UInt64,
      sent.instructions = setup ++ [ix] ∧
      (∀ instruction ∈ setup, instruction.programId = associatedTokenProgramAddress ∧
        instruction.requestWithdrawal? = none) ∧
      ix.Carries "request_withdrawal" amount' ∧ ix.programId = client.programId ∧
      ix.requestWithdrawal? = some (.requestWithdrawal ctx amount') ∧
      amount = amount'.toNat ∧ ctx.vault = vault ∧
      ctx.withdrawalRequest = findProgramAddressSync
        [utf8 "withdrawal", toBuffer vault, Borsh.serialize withdrawalId] client.programId ∧
      vaultState.nextWithdrawalId = withdrawalId.toNat ∧
      sent.accounts.withdrawalId = withdrawalId.toNat ∧
      sent.accounts.withdrawalRequest = ctx.withdrawalRequest := by
  unfold submitWithdrawal deriveWithdrawalAddress at h
  simp only [Except.bind_eq_ok_iff, Except.pure_eq_ok_iff] at h
  obtain ⟨recipientToken, -, withdrawalRequest, ⟨seed, hseed, rfl⟩, amountBytes, hamountBytes, rfl⟩
    := h
  obtain ⟨withdrawalId, hid, rfl⟩ := encodeU64_eq_ok.mp hseed
  obtain ⟨amount, rfl, rfl⟩ := encodeU64_eq_ok.mp hamountBytes
  have hdata : [Borsh.serialize amount].flatten = Borsh.serialize amount := by simp
  refine ⟨_, _, _, amount, withdrawalId, rfl, ?_, carries_of_data rfl hdata, rfl,
    requestWithdrawal?_eq (carries_of_data rfl hdata) rfl, rfl, rfl, rfl, hid, hid, rfl⟩
  intro instruction hmem
  exact ⟨programId_of_mem_createDestination hmem, requestWithdrawal?_of_mem_createDestination hmem⟩

theorem requestWithdrawal_decoded {params : RequestWithdrawalParams PublicKey}
    {sent : Sent PublicKey (RequestWithdrawalAccounts PublicKey)}
    (h : client.requestWithdrawal connection params = .ok sent) :
    client.RequestWithdrawalDecoded params sent := by
  unfold requestWithdrawal at h
  simp only [Except.bind_eq_ok_iff] at h
  obtain ⟨vault, -, mint, -, recipient, -, amount, hamount, tokenProgram, -, vaultState, -, h⟩ := h
  obtain ⟨setup, ix, ctx, amount, withdrawalId, hsent, hsetup, hcarries, -, hread, rfl, rfl, haddress,
    -, hid, -⟩ := submitWithdrawal_decoded h
  exact ⟨setup, ix, ctx, amount, withdrawalId, hsent, fun instruction hmem => (hsetup _ hmem).1,
    hcarries, hread, toBigInt_denotes hamount, haddress, hid⟩

end IronVaultClient

section

variable [Web3 (Vector UInt8 32)]

/--
For every call of the four methods, with any answers of the connection and any random bytes: if it
sends something, the program decodes it to what the caller asked for.
-/
theorem arguments_decoded (client : IronVaultClient (Vector UInt8 32))
    (connection : Connection (Vector UInt8 32)) (randomBytes : Vector UInt8 8) :
    (∀ params sent, client.createEscrow connection randomBytes params = .ok sent →
      client.CreateEscrowDecoded randomBytes params sent) ∧
    (∀ params sent, client.createVault randomBytes params = .ok sent →
      client.CreateVaultDecoded randomBytes params sent) ∧
    (∀ params sent, client.deposit connection params = .ok sent →
      IronVaultClient.DepositDecoded params sent) ∧
    (∀ params sent, client.requestWithdrawal connection params = .ok sent →
      client.RequestWithdrawalDecoded params sent) := by
  refine ⟨?_, ?_, ?_, ?_⟩
  . intro params sent h
    exact IronVaultClient.createEscrow_decoded h
  . intro params sent h
    exact IronVaultClient.createVault_decoded h
  . intro params sent h
    exact IronVaultClient.deposit_decoded h
  . intro params sent h
    exact IronVaultClient.requestWithdrawal_decoded h

end

namespace Scenario

def createEscrowParams : CreateEscrowParams (Vector UInt8 32) where
  recipient := .publicKey recipient
  mint := .publicKey mint
  amount := .number (.finite 250)
  -- Half a second after a full one.
  expiresAt := .date ⟨some 1800000000500, by decide⟩
  escrowId := some (.bigint 7)
  makerToken := none

def createVaultParams : CreateVaultParams (Vector UInt8 32) where
  guardian := .publicKey guardian
  vaultId := some (.number (.finite 3))

def depositParams : DepositParams (Vector UInt8 32) where
  vault := .publicKey vault
  mint := .publicKey mint
  amount := .bigint 1000
  sourceToken := none

def requestWithdrawalParams : RequestWithdrawalParams (Vector UInt8 32) where
  vault := .publicKey vault
  mint := .publicKey mint
  recipient := .publicKey recipient
  amount := .bigint 40
  recipientToken := none

theorem exists_ok {ε α : Type} {x : Except ε α} (h : x.isOk = true) : ∃ a, x = .ok a := by
  cases x with
  | ok a => exact ⟨a, rfl⟩
  | error e => simp [Except.isOk, Except.toBool] at h

theorem arguments_decoded_recorded :
    (∃ sent, client.createEscrow connection (.replicate 8 0) createEscrowParams = .ok sent ∧
      client.CreateEscrowDecoded (.replicate 8 0) createEscrowParams sent) ∧
    (∃ sent, client.createVault (.replicate 8 0) createVaultParams = .ok sent ∧
      client.CreateVaultDecoded (.replicate 8 0) createVaultParams sent) ∧
    (∃ sent, client.deposit connection depositParams = .ok sent ∧
      IronVaultClient.DepositDecoded depositParams sent) ∧
    (∃ sent, client.requestWithdrawal connection requestWithdrawalParams = .ok sent ∧
      client.RequestWithdrawalDecoded requestWithdrawalParams sent) := by
  have h := arguments_decoded client connection (.replicate 8 0)
  refine ⟨?_, ?_, ?_, ?_⟩
  . obtain ⟨sent, hsent⟩ := exists_ok (x := client.createEscrow connection (.replicate 8 0)
      createEscrowParams) (by decide +kernel)
    exact ⟨sent, hsent, h.1 _ _ hsent⟩
  . obtain ⟨sent, hsent⟩ := exists_ok (x := client.createVault (.replicate 8 0) createVaultParams)
      (by decide +kernel)
    exact ⟨sent, hsent, h.2.1 _ _ hsent⟩
  . obtain ⟨sent, hsent⟩ := exists_ok (x := client.deposit connection depositParams)
      (by decide +kernel)
    exact ⟨sent, hsent, h.2.2.1 _ _ hsent⟩
  . obtain ⟨sent, hsent⟩ := exists_ok (x := client.requestWithdrawal connection
      requestWithdrawalParams) (by decide +kernel)
    exact ⟨sent, hsent, h.2.2.2 _ _ hsent⟩

end Scenario

end IronVault.Client
