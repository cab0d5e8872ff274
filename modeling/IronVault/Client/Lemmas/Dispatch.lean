import Mathlib.Data.List.Nodup
import IronVault.Client.Arguments
import IronVault.Client.EscrowActions
import IronVault.Client.Impl.Dispatch

/-!
This module contains which instruction of the program each method of the client sends, and when the
transaction around it is confirmed.
-/

namespace IronVault.Client

open Web3

namespace TransactionInstruction

variable {PublicKey : Type} [Borsh PublicKey] [Web3 PublicKey] {ix : TransactionInstruction PublicKey}

theorem dispatch?_eq (hdistinct : DistinctHandlers PublicKey) {name : String}
    {reader : TransactionInstruction PublicKey → Option (Instruction PublicKey)}
    (hmem : (name, reader) ∈ handlers) {α : Type} [Borsh α] {arguments : α}
    (h : ix.Carries name arguments) : ix.dispatch? = reader ix := by
  have hcalls := h.calls_eq
  have hsome : ((@handlers PublicKey _ _).find? fun handler => ix.calls handler.1).isSome := by
    rw [List.find?_isSome]
    exact ⟨_, hmem, hcalls⟩
  obtain ⟨handler, hfind⟩ := Option.isSome_iff_exists.mp hsome
  have hcalls' : ix.calls handler.1 = true := by
    simpa using List.find?_some hfind
  have heq : handler = (name, reader) := by
    apply List.inj_on_of_nodup_map hdistinct (List.mem_of_find?_eq_some hfind) hmem
    unfold calls at hcalls hcalls'
    rw [decide_eq_true_eq] at hcalls hcalls'
    exact hcalls'.symm.trans hcalls
  unfold dispatch?
  rw [hfind, heq]
  rfl

/--
Data that is shorter than a discriminator reaches no handler.
-/
theorem dispatch?_of_short (h : ix.data.length < 8) : ix.dispatch? = none := by
  have hcalls (name : String) : ix.calls name = false := by
    unfold calls
    rw [decide_eq_false_iff_not]
    intro heq
    have hlength := congrArg List.length heq
    simp only [discriminator, List.length_take, Vector.length_toList] at hlength
    omega
  unfold dispatch?
  rw [List.find?_eq_none.mpr]
  . rfl
  . intro handler _
    simp [hcalls handler.1]

omit [Borsh PublicKey] in
theorem registerAsset?_eq
    {authority protocolConfig vault mint vaultAsset vaultToken tokenProgram systemProgram : PublicKey}
    {rest : List PublicKey} (h : ix.Carries "register_asset" ())
    (haccounts : ix.accounts = authority :: protocolConfig :: vault :: mint :: vaultAsset ::
      vaultToken :: tokenProgram :: systemProgram :: rest) :
    ix.registerAsset? = some (.registerAsset
      { authority, protocolConfig, vault, mint, vaultAsset, vaultToken, tokenProgram }) := by
  unfold registerAsset?
  simp [h.calls_eq, haccounts, guard]

end TransactionInstruction

section Sends

variable {PublicKey : Type} [DecidableEq PublicKey] [Borsh PublicKey] [Web3 PublicKey]

/--
The last instruction of the transaction is this one for the program, and what is in front of it never
reaches a handler. The signer of the instruction is the only one of the transaction, and exactly the
accounts that are declared as mutable are writable in it.
-/
structure Sends (client : IronVaultClient PublicKey) (ixs : List (TransactionInstruction PublicKey))
    (instruction : Instruction PublicKey) : Prop where
  signer_eq : instruction.signer = some client.payer
  exact : ∃ setup ix, ixs = setup ++ [ix] ∧ ix.programId = client.programId ∧
    ix.dispatch? = some instruction ∧
    (ix.keys.filter AccountMeta.isSigner).map AccountMeta.pubkey = [client.payer] ∧
    (ix.keys.filter AccountMeta.isWritable).map AccountMeta.pubkey = instruction.writable ∧
    ∀ instruction ∈ setup, instruction.dispatch? = none ∧
      ∀ key ∈ instruction.keys, key.isSigner → key.pubkey = client.payer

namespace IronVaultClient

open TransactionInstruction

variable {client : IronVaultClient PublicKey} {connection : Connection PublicKey}
variable {randomBytes : Vector UInt8 8}

omit [DecidableEq PublicKey] in
theorem setup_createDestination {address : Option (Address PublicKey)}
    {payer associatedToken owner mint tokenProgram : PublicKey} :
    ∀ ix ∈ createDestination address payer associatedToken owner mint tokenProgram,
      ix.dispatch? = none ∧ ∀ key ∈ ix.keys, key.isSigner → key.pubkey = payer := by
  intro ix hix
  rw [eq_of_mem_createDestination hix]
  refine ⟨dispatch?_of_short (Nat.lt_of_sub_eq_succ rfl), ?_⟩
  intro key hkey hsigner
  simp only [createAssociatedTokenAccountIdempotentInstruction, List.mem_cons, List.not_mem_nil,
    or_false] at hkey
  rcases hkey with rfl | rfl | rfl | rfl | rfl | rfl
  . rfl
  all_goals cases hsigner

theorem createEscrow_sent (hdistinct : DistinctHandlers PublicKey)
    {params : CreateEscrowParams PublicKey}
    {sent : Sent PublicKey (CreateEscrowAccounts PublicKey)}
    (h : client.createEscrow connection randomBytes params = .ok sent) :
    ∃ mint recipient, ∃ (escrowId amount : UInt64) (expiresAt : Int64),
      Sends client sent.instructions (.createEscrow {
        maker := client.payer
        protocolConfig := deriveProtocolAddress client.programId
        mint
        makerToken := sent.accounts.makerToken
        escrow := sent.accounts.escrow
        escrowToken := sent.accounts.escrowToken
        tokenProgram := sent.accounts.tokenProgram
      } escrowId recipient amount expiresAt) ∧
      asPublicKey params.mint = .ok mint ∧ asPublicKey params.recipient = .ok recipient ∧
      Timestamp.Denotes params.amount amount.toNat ∧ params.expiresAt.Denotes expiresAt.toInt ∧
      DenotesId params.escrowId randomBytes escrowId.toNat ∧
      sent.accounts.escrowId = escrowId.toNat ∧ sent.instructions.dropLast = [] := by
  unfold createEscrow deriveEscrowAddress at h
  simp only [Except.bind_eq_ok_iff, Except.pure_eq_ok_iff] at h
  obtain ⟨recipient, hrecipient, mint, hmint, amount, hamount, expiresAt, hexpiresAt, escrowId,
    hescrowId, tokenProgram, -, makerToken, -, escrow, ⟨seed, hseed, rfl⟩, escrowIdBytes,
    hescrowIdBytes, amountBytes, hamountBytes, expiresAtBytes, hexpiresAtBytes, rfl⟩ := h
  obtain ⟨escrowId, rfl, rfl⟩ := encodeU64_eq_ok.mp hseed
  obtain ⟨amount, rfl, rfl⟩ := encodeU64_eq_ok.mp hamountBytes
  obtain ⟨expiresAt, rfl, rfl⟩ := encodeI64_eq_ok.mp hexpiresAtBytes
  rw [encodeU64_toNat, Except.ok.injEq] at hescrowIdBytes
  subst hescrowIdBytes
  have hdata : [Borsh.serialize escrowId, toBuffer recipient, Borsh.serialize amount,
      Borsh.serialize expiresAt].flatten = Borsh.serialize (escrowId, recipient, amount, expiresAt) := by
    simp [toBuffer, Borsh.serialize_prod]
  have hmem : ("create_escrow", @createEscrow? PublicKey _ _) ∈ handlers := by simp [handlers]
  refine ⟨mint, recipient, escrowId, amount, expiresAt, ⟨rfl, [], _, rfl, rfl, ?_, rfl, rfl, by simp⟩,
    hmint, hrecipient, toBigInt_denotes hamount, toBigInt_denotes hexpiresAt,
    denotesId_of_idOr hescrowId, rfl, rfl⟩
  rw [dispatch?_eq hdistinct hmem (carries_of_data rfl hdata)]
  exact createEscrow?_eq (carries_of_data rfl hdata) rfl

theorem releaseEscrow_sent (hdistinct : DistinctHandlers PublicKey)
    {params : EscrowReference PublicKey}
    {sent : Sent PublicKey (ReleaseEscrowAccounts PublicKey)}
    (h : client.releaseEscrow connection params = .ok sent) :
    ∃ mint tokenProgram,
      Sends client sent.instructions (.releaseEscrow {
        maker := client.payer
        protocolConfig := deriveProtocolAddress client.programId
        escrow := sent.accounts.escrow
        mint
        escrowToken := sent.accounts.escrowToken
        recipientToken := sent.accounts.recipientToken
        tokenProgram
      }) ∧
      (given params.escrow = none → ∃ escrowId : UInt64,
        Timestamp.Denotes params.escrowId escrowId.toNat ∧
        sent.accounts.escrow = findProgramAddressSync
          [utf8 "escrow", toBuffer client.payer, Borsh.serialize escrowId] client.programId) := by
  unfold releaseEscrow at h
  simp only [Except.bind_eq_ok_iff, Except.pure_eq_ok_iff, require_eq_ok, exists_const] at h
  obtain ⟨escrowId, hescrowId, escrow, hescrow, state, -, hmaker, recipientToken, -, rfl⟩ := h
  have hdata : ([] : List (List UInt8)).flatten = Borsh.serialize () := rfl
  have hmem : ("release_escrow", @releaseEscrow? PublicKey _) ∈ handlers := by simp [handlers]
  refine ⟨state.mint, state.tokenProgram,
    ⟨rfl, _, _, rfl, rfl, ?_, rfl, rfl, setup_createDestination⟩, ?_⟩
  . rw [dispatch?_eq hdistinct hmem (carries_of_data rfl hdata)]
    exact releaseEscrow?_eq (carries_of_data rfl hdata) rfl
  . intro hgiven
    unfold addressOr deriveEscrowAddress at hescrow
    simp only [hgiven, Except.bind_eq_ok_iff, Except.pure_eq_ok_iff] at hescrow
    obtain ⟨seed, hseed, rfl⟩ := hescrow
    obtain ⟨escrowId, rfl, rfl⟩ := encodeU64_eq_ok.mp hseed
    exact ⟨escrowId, toBigInt_denotes hescrowId, rfl⟩

theorem refundEscrow_sent (hdistinct : DistinctHandlers PublicKey)
    {params : EscrowReference PublicKey}
    {sent : Sent PublicKey (RefundEscrowAccounts PublicKey)}
    (h : client.refundEscrow connection params = .ok sent) :
    ∃ mint tokenProgram, Sends client sent.instructions (.refundEscrow {
      caller := client.payer
      escrow := sent.accounts.escrow
      mint
      escrowToken := sent.accounts.escrowToken
      makerDestination := sent.accounts.makerDestination
      tokenProgram
    }) := by
  unfold refundEscrow at h
  simp only [Except.bind_eq_ok_iff, Except.pure_eq_ok_iff, require_eq_ok, exists_const] at h
  obtain ⟨escrowId, -, escrow, -, state, -, -, makerDestination, -, rfl⟩ := h
  have hdata : ([] : List (List UInt8)).flatten = Borsh.serialize () := rfl
  have hmem : ("refund_escrow", @refundEscrow? PublicKey _) ∈ handlers := by simp [handlers]
  refine ⟨state.mint, state.tokenProgram, rfl, _, _, rfl, rfl, ?_, rfl, rfl, setup_createDestination⟩
  rw [dispatch?_eq hdistinct hmem (carries_of_data rfl hdata)]
  exact refundEscrow?_eq (carries_of_data rfl hdata) rfl

omit [DecidableEq PublicKey] in
theorem createVault_sent (hdistinct : DistinctHandlers PublicKey)
    {params : CreateVaultParams PublicKey}
    {sent : Sent PublicKey (CreateVaultAccounts PublicKey)}
    (h : client.createVault randomBytes params = .ok sent) :
    ∃ guardian, ∃ vaultId : UInt64,
      Sends client sent.instructions (.createVault {
        authority := client.payer
        protocolConfig := deriveProtocolAddress client.programId
        vault := sent.accounts.vault
      } vaultId guardian) ∧
      asPublicKey params.guardian = .ok guardian ∧
      DenotesId params.vaultId randomBytes vaultId.toNat ∧
      sent.accounts.vaultId = vaultId.toNat := by
  unfold createVault deriveVaultAddress at h
  simp only [Except.bind_eq_ok_iff, Except.pure_eq_ok_iff] at h
  obtain ⟨guardian, hguardian, vaultId, hvaultId, vault, ⟨seed, hseed, rfl⟩, vaultIdBytes,
    hvaultIdBytes, rfl⟩ := h
  obtain ⟨vaultId, rfl, rfl⟩ := encodeU64_eq_ok.mp hseed
  rw [encodeU64_toNat, Except.ok.injEq] at hvaultIdBytes
  subst hvaultIdBytes
  have hdata : [Borsh.serialize vaultId, toBuffer guardian].flatten =
      Borsh.serialize (vaultId, guardian) := by
    simp [toBuffer, Borsh.serialize_prod]
  have hmem : ("create_vault", @createVault? PublicKey _ _) ∈ handlers := by simp [handlers]
  refine ⟨guardian, vaultId, ⟨rfl, [], _, rfl, rfl, ?_, rfl, rfl, by simp⟩, hguardian,
    denotesId_of_idOr hvaultId, rfl⟩
  rw [dispatch?_eq hdistinct hmem (carries_of_data rfl hdata)]
  exact createVault?_eq (carries_of_data rfl hdata) rfl

theorem registerAsset_sent (hdistinct : DistinctHandlers PublicKey)
    {params : VaultMintParams PublicKey}
    {sent : Sent PublicKey (RegisterAssetAccounts PublicKey)}
    (h : client.registerAsset connection params = .ok sent) :
    ∃ mint,
      Sends client sent.instructions (.registerAsset {
        authority := client.payer
        protocolConfig := deriveProtocolAddress client.programId
        vault := sent.accounts.vault
        mint
        vaultAsset := sent.accounts.vaultAsset
        vaultToken := sent.accounts.vaultToken
        tokenProgram := sent.accounts.tokenProgram
      }) ∧
      asPublicKey params.vault = .ok sent.accounts.vault ∧ asPublicKey params.mint = .ok mint := by
  unfold registerAsset at h
  simp only [Except.bind_eq_ok_iff, Except.pure_eq_ok_iff] at h
  obtain ⟨vault, hvault, mint, hmint, tokenProgram, -, rfl⟩ := h
  have hdata : ([] : List (List UInt8)).flatten = Borsh.serialize () := rfl
  have hmem : ("register_asset", @registerAsset? PublicKey _) ∈ handlers := by simp [handlers]
  refine ⟨mint, ⟨rfl, [], _, rfl, rfl, ?_, rfl, rfl, by simp⟩, hvault, hmint⟩
  rw [dispatch?_eq hdistinct hmem (carries_of_data rfl hdata)]
  exact registerAsset?_eq (carries_of_data rfl hdata) rfl

theorem deposit_sent (hdistinct : DistinctHandlers PublicKey) {params : DepositParams PublicKey}
    {sent : Sent PublicKey (DepositAccounts PublicKey)}
    (h : client.deposit connection params = .ok sent) :
    ∃ mint tokenProgram, ∃ amount : UInt64,
      Sends client sent.instructions (.deposit {
        depositor := client.payer
        vault := sent.accounts.vault
        mint
        vaultAsset := sent.accounts.vaultAsset
        sourceToken := sent.accounts.sourceToken
        vaultToken := sent.accounts.vaultToken
        tokenProgram
      } amount) ∧
      asPublicKey params.vault = .ok sent.accounts.vault ∧ asPublicKey params.mint = .ok mint ∧
      Timestamp.Denotes params.amount amount.toNat ∧ sent.instructions.dropLast = [] := by
  unfold deposit at h
  simp only [Except.bind_eq_ok_iff, Except.pure_eq_ok_iff] at h
  obtain ⟨vault, hvault, mint, hmint, amount, hamount, tokenProgram, -, sourceToken, -, amountBytes,
    hamountBytes, rfl⟩ := h
  obtain ⟨amount, rfl, rfl⟩ := encodeU64_eq_ok.mp hamountBytes
  have hdata : [Borsh.serialize amount].flatten = Borsh.serialize amount := by simp
  have hmem : ("deposit", @deposit? PublicKey _) ∈ handlers := by simp [handlers]
  refine ⟨mint, tokenProgram, amount, ⟨rfl, [], _, rfl, rfl, ?_, rfl, rfl, by simp⟩, hvault, hmint,
    toBigInt_denotes hamount, rfl⟩
  rw [dispatch?_eq hdistinct hmem (carries_of_data rfl hdata)]
  exact deposit?_eq (carries_of_data rfl hdata) rfl

theorem requestWithdrawal_sent (hdistinct : DistinctHandlers PublicKey)
    {params : RequestWithdrawalParams PublicKey}
    {sent : Sent PublicKey (RequestWithdrawalAccounts PublicKey)}
    (h : client.requestWithdrawal connection params = .ok sent) :
    ∃ mint recipient tokenProgram remainingAccounts, ∃ amount withdrawalId : UInt64,
      Sends client sent.instructions (.requestWithdrawal {
        proposer := client.payer
        protocolConfig := deriveProtocolAddress client.programId
        vault := sent.accounts.vault
        mint
        vaultAsset := sent.accounts.vaultAsset
        recipientToken := sent.accounts.recipientToken
        withdrawalRequest := sent.accounts.withdrawalRequest
        remainingAccounts
      } amount) ∧
      asPublicKey params.vault = .ok sent.accounts.vault ∧ asPublicKey params.mint = .ok mint ∧
      Timestamp.Denotes params.amount amount.toNat ∧
      asPublicKey params.recipient = .ok recipient ∧
      (tokenProgram = tokenProgramAddress ∨ tokenProgram = token2022ProgramAddress) ∧
      Destined params.recipientToken (deriveAssociatedTokenAddress mint recipient tokenProgram)
        sent.accounts.recipientToken ∧
      sent.accounts.withdrawalRequest = findProgramAddressSync
        [utf8 "withdrawal", toBuffer sent.accounts.vault, Borsh.serialize withdrawalId]
        client.programId ∧
      sent.accounts.withdrawalId = withdrawalId.toNat := by
  unfold requestWithdrawal submitWithdrawal deriveWithdrawalAddress at h
  simp only [Except.bind_eq_ok_iff, Except.pure_eq_ok_iff] at h
  obtain ⟨vault, hvault, mint, hmint, recipient, hrecipient, amount, hamount, tokenProgram,
    htokenProgram, vaultState, -, recipientToken, hrecipientToken, withdrawalRequest,
    ⟨seed, hseed, rfl⟩, amountBytes, hamountBytes, rfl⟩ := h
  obtain ⟨withdrawalId, hid, rfl⟩ := encodeU64_eq_ok.mp hseed
  obtain ⟨amount, rfl, rfl⟩ := encodeU64_eq_ok.mp hamountBytes
  have hdata : [Borsh.serialize amount].flatten = Borsh.serialize amount := by simp
  have hmem : ("request_withdrawal", @requestWithdrawal? PublicKey _) ∈ handlers := by
    simp [handlers]
  -- the role account that a delegate appends has no privileges
  let role : List (AccountMeta PublicKey) :=
    if vaultState.authority ≠ client.payer then
      [⟨deriveRoleAddress vault client.payer client.programId, false, false⟩]
    else
      []
  refine ⟨mint, recipient, tokenProgram, role.map AccountMeta.pubkey, amount, withdrawalId,
    ⟨rfl, _, _, rfl, rfl, ?_, ?_, ?_, setup_createDestination⟩,
    hvault, hmint, toBigInt_denotes hamount, hrecipient, resolveTokenProgram_supported htokenProgram,
    addressOr_eq_ok.mp hrecipientToken, rfl, hid⟩
  . rw [dispatch?_eq hdistinct hmem (carries_of_data rfl hdata)]
    exact requestWithdrawal?_eq (carries_of_data rfl hdata) rfl
  . split <;> rfl
  . split <;> rfl

end IronVaultClient

end Sends

section Transaction

variable {Pubkey : Type} [DecidableEq Pubkey] [Solana Pubkey] [Borsh Pubkey] [Web3 Pubkey]
variable {client : IronVaultClient Pubkey} {ixs : List (TransactionInstruction Pubkey)}
variable {instruction : Instruction Pubkey} {programId : Pubkey} {keys : List (AccountMeta Pubkey)}
variable {now : Int64} {s s' : State Pubkey}

theorem Transacts.append_iff {front back : List (TransactionInstruction Pubkey)} :
    Transacts programId keys now s (front ++ back) s' ↔
      ∃ s₁, Transacts programId keys now s front s₁ ∧ Transacts programId keys now s₁ back s' := by
  constructor
  . intro h
    induction front generalizing s with
    | nil => exact ⟨s, .nil, h⟩
    | cons ix front ih =>
      cases h with
      | program hprogram hread hgranted hok hrest =>
        obtain ⟨s₁, hfront, hback⟩ := ih hrest
        exact ⟨s₁, .program hprogram hread hgranted hok hfront, hback⟩
      | other hprogram hthird hrest =>
        obtain ⟨s₁, hfront, hback⟩ := ih hrest
        exact ⟨s₁, .other hprogram hthird hfront, hback⟩
  . rintro ⟨s₁, hfront, hback⟩
    induction hfront with
    | nil => exact hback
    | program hprogram hread hgranted hok _ ih => exact .program hprogram hread hgranted hok (ih hback)
    | other hprogram hthird _ ih => exact .other hprogram hthird (ih hback)

/--
Instructions that reach no handler do what third parties can do.
-/
theorem Transacts.run (h : Transacts programId keys now s ixs s')
    (hnone : ∀ ix ∈ ixs, ix.dispatch? = none) : ∃ tr, Run Step s tr s' := by
  induction h with
  | nil => exact ⟨[], .nil⟩
  | program _ hread =>
    rw [hnone _ List.mem_cons_self] at hread
    cases hread
  | other _ hthird _ ih =>
    obtain ⟨tr, hrun⟩ := ih fun ix hix => hnone ix (List.mem_cons_of_mem _ hix)
    exact ⟨_, (Run.nil.snoc (.thirdParty hthird)).trans hrun⟩

omit [DecidableEq Pubkey] [Solana Pubkey] in
theorem Sends.setup (h : Sends client ixs instruction) :
    ∀ ix ∈ ixs.dropLast, ix.dispatch? = none := by
  obtain ⟨setup, ix, rfl, -, -, -, -, hsetup⟩ := h.exact
  rw [List.dropLast_concat]
  intro ix hix
  exact (hsetup ix hix).1

omit [DecidableEq Pubkey] [Solana Pubkey] in
theorem Sends.granted (h : Sends client ixs instruction) :
    Grants (transactionKeys ixs) instruction := by
  obtain ⟨setup, ix, rfl, -, -, hsigners, hwritable, -⟩ := h.exact
  have hkeys : ∀ key ∈ ix.keys, key ∈ transactionKeys (setup ++ [ix]) := by
    intro key hkey
    simp [transactionKeys, hkey]
  constructor
  . intro signer hsigner
    have hmem : signer ∈ (ix.keys.filter AccountMeta.isSigner).map AccountMeta.pubkey := by
      rw [hsigners, List.mem_singleton]
      rw [h.signer_eq, Option.mem_some_iff] at hsigner
      exact hsigner.symm
    obtain ⟨key, hkey, rfl⟩ := List.mem_map.mp hmem
    rw [List.mem_filter] at hkey
    exact ⟨key, hkeys key hkey.1, rfl, hkey.2⟩
  . intro account haccount
    rw [← hwritable] at haccount
    obtain ⟨key, hkey, rfl⟩ := List.mem_map.mp haccount
    rw [List.mem_filter] at hkey
    exact ⟨key, hkeys key hkey.1, rfl, hkey.2⟩

/--
The payer is the only signer of the transaction.
-/
theorem Sends.signed_iff (h : Sends client ixs instruction) :
    (∀ key ∈ transactionKeys ixs, key.isSigner → ¬ IsProgramAddress key.pubkey) ↔
      ¬ IsProgramAddress client.payer := by
  constructor
  . intro hsigned
    obtain ⟨key, hkey, heq, hsigner⟩ := h.granted.signs client.payer h.signer_eq
    rw [← heq]
    exact hsigned key hkey hsigner
  . intro hpayer key hkey hsigner
    obtain ⟨setup, ix, rfl, -, -, hsigners, -, hsetup⟩ := h.exact
    suffices heq : key.pubkey = client.payer by
      rw [heq]
      exact hpayer
    simp only [transactionKeys, List.flatMap_append, List.flatMap_cons, List.flatMap_nil,
      List.append_nil, List.mem_append, List.mem_flatMap] at hkey
    rcases hkey with ⟨instruction, hinstruction, hkey⟩ | hkey
    . exact (hsetup instruction hinstruction).2 key hkey hsigner
    . have hmem := List.mem_map_of_mem (f := AccountMeta.pubkey)
        (List.mem_filter.mpr ⟨hkey, hsigner⟩)
      rw [hsigners] at hmem
      exact List.mem_singleton.mp hmem

/--
The transaction is confirmed exactly when its payer can sign, what is in front of the instruction
succeeds and the handler of the instruction does.
-/
theorem Sends.confirmed_iff (h : Sends client ixs instruction) :
    Confirmed client.programId now s ixs s' ↔ ¬ IsProgramAddress client.payer ∧
      ∃ s₁ event,
        Transacts client.programId (transactionKeys ixs) now s ixs.dropLast s₁ ∧
        process s₁ now instruction = .ok (s', event) := by
  have hgranted := h.granted
  have hsigned := h.signed_iff
  obtain ⟨setup, ix, rfl, hprogram, hread, -, -, -⟩ := h.exact
  rw [List.dropLast_concat]
  constructor
  . intro hconfirmed
    obtain ⟨s₁, hsetup, hlast⟩ := Transacts.append_iff.mp hconfirmed.executed
    refine ⟨hsigned.mp hconfirmed.signed, s₁, ?_⟩
    cases hlast with
    | other hother => exact absurd hprogram hother
    | program _ hread' _ hok hrest =>
      rw [hread, Option.some.injEq] at hread'
      subst hread'
      cases hrest
      exact ⟨_, hsetup, hok⟩
  . rintro ⟨hpayer, s₁, event, hsetup, hok⟩
    exact ⟨hsigned.mpr hpayer,
      Transacts.append_iff.mpr ⟨s₁, hsetup, .program hprogram hread hgranted hok .nil⟩⟩

/--
Seen from the chain, the transaction is a run of third parties with the instruction at its end.
-/
theorem Sends.step (h : Sends client ixs instruction)
    (hconfirmed : Confirmed client.programId now s ixs s') :
    ∃ tr s₁, Run Step s tr s₁ ∧ (ixs.dropLast = [] → s₁ = s) ∧
      Step s₁ (.instruction instruction now) s' := by
  obtain ⟨hpayer, s₁, event, hsetup, hok⟩ := h.confirmed_iff.mp hconfirmed
  obtain ⟨tr, hrun⟩ := hsetup.run h.setup
  refine ⟨tr, s₁, hrun, ?_, .instruction ?_ hok⟩
  . intro hnil
    rw [hnil] at hsetup
    cases hsetup
    rfl
  . intro signer hsigner
    rw [h.signer_eq, Option.mem_some_iff] at hsigner
    rw [← hsigner]
    exact hpayer

end Transaction

end IronVault.Client
