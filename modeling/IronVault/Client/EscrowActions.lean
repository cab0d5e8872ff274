import IronVault.Client.Lemmas.Entrypoint
import IronVault.Client.Layout

/-!
This module contains which escrow `releaseEscrow` and `refundEscrow` act on, for every content of the
accounts that they fetch.
-/

namespace IronVault.Client

/--
The fields of `Escrow` up to `escrow_id`, as the account at an address stores them. What stands
behind them is arbitrary.
-/
def Stores (connection : Connection (Vector UInt8 32)) (address : Vector UInt8 32)
    (maker recipient mint tokenProgram : Vector UInt8 32) (escrowId : UInt64) : Prop :=
  ∃ owner data rest, connection.getAccountInfo address = .ok (some ⟨owner, data⟩) ∧
    Borsh.deserialize (data.drop 8) = some ((maker, recipient, mint, tokenProgram, escrowId), rest)

section Stored

variable {connection : Connection (Vector UInt8 32)}

theorem Stores.unique {address maker recipient mint tokenProgram : Vector UInt8 32}
    {escrowId : UInt64} {maker' recipient' mint' tokenProgram' : Vector UInt8 32}
    {escrowId' : UInt64} (h : Stores connection address maker recipient mint tokenProgram escrowId)
    (h' : Stores connection address maker' recipient' mint' tokenProgram' escrowId') :
    (maker, recipient, mint, tokenProgram, escrowId) =
      (maker', recipient', mint', tokenProgram', escrowId') := by
  obtain ⟨owner, data, rest, hfetched, hdata⟩ := h
  obtain ⟨owner', data', rest', hfetched', hdata'⟩ := h'
  rw [hfetched, Except.ok.injEq, Option.some.injEq] at hfetched'
  cases hfetched'
  rw [hdata, Option.some.injEq, Prod.mk.injEq] at hdata'
  exact hdata'.1

/--
The account at an address passes for an escrow of the program, whatever its fields are.
-/
def IsEscrow [Web3 (Vector UInt8 32)] (client : IronVaultClient (Vector UInt8 32))
    (connection : Connection (Vector UInt8 32)) (address : Vector UInt8 32) : Prop :=
  ∃ data, connection.getAccountInfo address = .ok (some ⟨client.programId, data⟩) ∧
    170 ≤ data.length ∧
    subarray data 0 8 = anchorDiscriminator (Vector UInt8 32) "account" "Escrow"

variable [Web3 (Vector UInt8 32)] {client : IronVaultClient (Vector UInt8 32)}
  {address maker recipient mint tokenProgram : Vector UInt8 32} {escrowId : UInt64}

/--
The reader takes the fields by their offsets, and these are the fields of the layout.
-/
theorem stores_of_fetchEscrow {state : EscrowState (Vector UInt8 32)}
    (h : client.fetchEscrow connection address = .ok state) :
    IsEscrow client connection address ∧
      ∃ escrowId : UInt64, state.escrowId = escrowId.toNat ∧
        Stores connection address state.maker state.recipient state.mint state.tokenProgram
          escrowId := by
  obtain ⟨data, hdata, hmaker, hrecipient, hmint, hprogram, hid⟩ :=
    IronVaultClient.fetchEscrow_eq_ok.mp h
  have haccount := IronVaultClient.fetchProgramAccount_eq_ok.mp hdata
  refine ⟨⟨data, haccount⟩, ?_⟩
  obtain ⟨hfetched, hlength, -⟩ := haccount
  obtain ⟨escrowId, hescrowId, hbytes⟩ := readBigUInt64LE_eq_ok hid
  have hread := Borsh.deserialize_append
    (state.maker, state.recipient, state.mint, state.tokenProgram, escrowId) (data.drop 144)
  simp only [Borsh.serialize_prod, List.append_assoc] at hread
  refine ⟨escrowId, hescrowId, _, data, data.drop 144, hfetched, ?_⟩
  rw [ofBuffer_eq_ok] at hmaker hrecipient hmint hprogram
  rw [drop_eq_subarray_append 8 40 (by decide) (by omega), hmaker,
    drop_eq_subarray_append 40 72 (by decide) (by omega), hrecipient,
    drop_eq_subarray_append 72 104 (by decide) (by omega), hmint,
    drop_eq_subarray_append 104 136 (by decide) (by omega), hprogram,
    drop_eq_subarray_append 136 144 (by decide) (by omega), hbytes, hread]

theorem fetchEscrow_of_stores (h : IsEscrow client connection address)
    (hstores : Stores connection address maker recipient mint tokenProgram escrowId) :
    client.fetchEscrow connection address =
      .ok ⟨maker, recipient, mint, tokenProgram, escrowId.toNat⟩ := by
  obtain ⟨data, haccount⟩ := h
  obtain ⟨owner, data', rest, hfetched, hdata⟩ := hstores
  have hsame := haccount.1
  rw [hfetched, Except.ok.injEq, Option.some.injEq, AccountInfo.mk.injEq] at hsame
  obtain ⟨rfl, rfl⟩ := hsame
  have hbytes := Borsh.eq_append hdata
  simp only [Borsh.serialize_prod, List.append_assoc] at hbytes
  have hread := IronVaultClient.fetchProgramAccount_eq_ok.mpr haccount
  have hlength : (data'.take 8).length = 8 := List.length_take_of_le (by omega)
  rw [← List.take_append_drop 8 data', hbytes] at hread
  exact fetchEscrow_of_fields hread hlength

end Stored

section Destination

variable {PublicKey : Type} [Web3 PublicKey] {associated destination : PublicKey}

/--
The destination is the token account that the caller gave, or the associated one.
-/
def Destined (address : Option (Address PublicKey)) (associated destination : PublicKey) : Prop :=
  match given address with
  | some address => asPublicKey address = .ok destination
  | none => destination = associated

theorem addressOr_eq_ok {address : Option (Address PublicKey)} :
    IronVaultClient.addressOr address (.ok associated) = .ok destination ↔
      Destined address associated destination := by
  unfold IronVaultClient.addressOr Destined
  cases given address with
  | some address => rfl
  | none =>
    dsimp only
    rw [Except.ok.injEq]
    exact eq_comm

/--
An address that is given is one.
-/
def Parses (address : Option (Address PublicKey)) : Prop :=
  ∀ text ∈ given address, ∃ key, asPublicKey text = .ok key

theorem parses_iff {address : Option (Address PublicKey)} (associated : PublicKey) :
    Parses address ↔ ∃ destination, Destined address associated destination := by
  unfold Parses Destined
  cases given address with
  | some text => simp
  | none => simp

end Destination

section Actions

variable [Web3 (Vector UInt8 32)] {client : IronVaultClient (Vector UInt8 32)}
variable {connection : Connection (Vector UInt8 32)} {params : EscrowReference (Vector UInt8 32)}

open Web3

namespace IronVaultClient

/--
A release acts on the escrow that the caller named: the escrow of the instruction stores the given
id, its custody account is the one of this escrow, and the tokens go where the caller said or to the
associated account of the stored recipient.
-/
def ReleaseHits (client : IronVaultClient (Vector UInt8 32))
    (connection : Connection (Vector UInt8 32)) (params : EscrowReference (Vector UInt8 32))
    (sent : Sent (Vector UInt8 32) (ReleaseEscrowAccounts (Vector UInt8 32))) : Prop :=
  ∃ setup ix ctx maker recipient mint tokenProgram escrowId,
    sent.instructions = setup ++ [ix] ∧
    ix.releaseEscrow? = some (.releaseEscrow ctx) ∧
    Stores connection ctx.escrow maker recipient mint tokenProgram escrowId ∧
    Timestamp.Denotes params.escrowId escrowId.toNat ∧
    ctx.escrowToken = findProgramAddressSync
      [utf8 "escrow_token", toBuffer ctx.escrow] client.programId ∧
    Destined params.destinationToken (deriveAssociatedTokenAddress mint recipient tokenProgram)
      ctx.recipientToken

def RefundHits (client : IronVaultClient (Vector UInt8 32))
    (connection : Connection (Vector UInt8 32)) (params : EscrowReference (Vector UInt8 32))
    (sent : Sent (Vector UInt8 32) (RefundEscrowAccounts (Vector UInt8 32))) : Prop :=
  ∃ setup ix ctx maker recipient mint tokenProgram escrowId,
    sent.instructions = setup ++ [ix] ∧
    ix.refundEscrow? = some (.refundEscrow ctx) ∧
    Stores connection ctx.escrow maker recipient mint tokenProgram escrowId ∧
    Timestamp.Denotes params.escrowId escrowId.toNat ∧
    ctx.escrowToken = findProgramAddressSync
      [utf8 "escrow_token", toBuffer ctx.escrow] client.programId ∧
    Destined params.destinationToken (deriveAssociatedTokenAddress mint maker tokenProgram)
      ctx.makerDestination

theorem refundEscrow_hits {sent : Sent (Vector UInt8 32) (RefundEscrowAccounts (Vector UInt8 32))}
    (h : client.refundEscrow connection params = .ok sent) :
    client.RefundHits connection params sent := by
  unfold refundEscrow at h
  simp only [Except.bind_eq_ok_iff, require_eq_ok, Except.pure_eq_ok_iff] at h
  obtain ⟨id, hid, escrow, -, state, hstate, -, hmatch, destination, hdestination, rfl⟩ := h
  obtain ⟨-, escrowId, hescrowId, hstores⟩ := stores_of_fetchEscrow hstate
  refine ⟨_, _, _, _, _, _, _, escrowId, rfl,
    TransactionInstruction.refundEscrow?_eq (TransactionInstruction.carries_of_data rfl rfl) rfl,
    hstores, ?_, rfl, addressOr_eq_ok.mp hdestination⟩
  rw [← hescrowId, hmatch]
  exact toBigInt_denotes hid

/--
What a release needs to send a transaction. The id of the reference is parsed and, if an address is
given, not used again.
-/
def Releases (client : IronVaultClient (Vector UInt8 32))
    (connection : Connection (Vector UInt8 32)) (params : EscrowReference (Vector UInt8 32)) (id : Int)
    (escrow : Vector UInt8 32) (state : EscrowState (Vector UInt8 32))
    (recipientToken : Vector UInt8 32) : Prop :=
  toBigInt params.escrowId "escrowId" = .ok id ∧
  addressOr params.escrow (deriveEscrowAddress client.payer id client.programId) = .ok escrow ∧
  client.fetchEscrow connection escrow = .ok state ∧ state.maker = client.payer ∧
  Destined params.destinationToken
    (deriveAssociatedTokenAddress state.mint state.recipient state.tokenProgram) recipientToken

variable {id : Int} {escrow recipientToken : Vector UInt8 32} {state : EscrowState (Vector UInt8 32)}

theorem Releases.exists_sent (h : client.Releases connection params id escrow state recipientToken) :
    ∃ sent, client.releaseEscrow connection params = .ok sent := by
  obtain ⟨hid, hescrow, hstate, hmaker, hdestination⟩ := h
  unfold releaseEscrow
  simp only [Except.bind_eq_ok_iff, require_eq_ok, Except.pure_eq_ok_iff, addressOr_eq_ok]
  exact ⟨_, id, hid, escrow, hescrow, state, hstate, (), hmaker, recipientToken, hdestination, rfl⟩

theorem releaseEscrow_sends
    {sent : Sent (Vector UInt8 32) (ReleaseEscrowAccounts (Vector UInt8 32))}
    (h : client.releaseEscrow connection params = .ok sent) :
    ∃ id escrow state recipientToken setup ix,
      client.Releases connection params id escrow state recipientToken ∧
      sent.instructions = setup ++ [ix] ∧
      ix.releaseEscrow? = some (.releaseEscrow {
        maker := client.payer
        protocolConfig := deriveProtocolAddress client.programId
        escrow
        mint := state.mint
        escrowToken := deriveEscrowTokenAddress escrow client.programId
        recipientToken
        tokenProgram := state.tokenProgram
      }) := by
  unfold releaseEscrow at h
  simp only [Except.bind_eq_ok_iff, require_eq_ok, Except.pure_eq_ok_iff, addressOr_eq_ok] at h
  obtain ⟨id, hid, escrow, hescrow, state, hstate, -, hmaker, recipientToken, hdestination, rfl⟩ := h
  exact ⟨id, escrow, state, recipientToken, _, _, ⟨hid, hescrow, hstate, hmaker, hdestination⟩, rfl,
    TransactionInstruction.releaseEscrow?_eq (TransactionInstruction.carries_of_data rfl rfl) rfl⟩

theorem Releases.unique {id' : Int} {escrow' recipientToken' : Vector UInt8 32}
    {state' : EscrowState (Vector UInt8 32)}
    (h : client.Releases connection params id escrow state recipientToken)
    (h' : client.Releases connection params id' escrow' state' recipientToken') :
    id = id' ∧ escrow = escrow' ∧ state = state' := by
  obtain ⟨hid, hescrow, hstate, -⟩ := h
  obtain ⟨hid', hescrow', hstate', -⟩ := h'
  rw [hid, Except.ok.injEq] at hid'
  subst hid'
  rw [hescrow, Except.ok.injEq] at hescrow'
  subst hescrow'
  rw [hstate, Except.ok.injEq] at hstate'
  exact ⟨rfl, rfl, hstate'⟩

/--
A release that is sent acts on the named escrow exactly if the account stores the id that was given.
-/
theorem releaseHits_iff {sent : Sent (Vector UInt8 32) (ReleaseEscrowAccounts (Vector UInt8 32))}
    (hsent : client.releaseEscrow connection params = .ok sent)
    (h : client.Releases connection params id escrow state recipientToken) :
    client.ReleaseHits connection params sent ↔ state.escrowId = id := by
  obtain ⟨id', escrow', state', recipientToken', setup, ix, hreleases, hinstructions, hread⟩ :=
    releaseEscrow_sends hsent
  obtain ⟨rfl, rfl, rfl⟩ := h.unique hreleases
  obtain ⟨-, escrowId, hescrowId, hstores⟩ := stores_of_fetchEscrow h.2.2.1
  constructor
  . rintro ⟨setup', ix', ctx, _, _, _, _, escrowId', hinstructions', hread', hstores', hdenotes, -, -⟩
    rw [hinstructions] at hinstructions'
    obtain ⟨-, hix⟩ := List.append_inj' hinstructions' rfl
    obtain ⟨rfl, -⟩ := List.cons.inj hix
    rw [hread, Option.some.injEq, Instruction.releaseEscrow.injEq] at hread'
    subst hread'
    obtain ⟨-, -, -, -, rfl⟩ := by simpa only [Prod.mk.injEq] using hstores.unique hstores'
    rw [hescrowId]
    exact hdenotes.unique (toBigInt_denotes h.1)
  . intro hid
    refine ⟨setup, ix, _, _, _, _, _, escrowId, hinstructions, hread, hstores, ?_, rfl,
      hreleases.2.2.2.2⟩
    rw [← hescrowId, hid]
    exact toBigInt_denotes h.1

/--
The address of a reference: the one that is given, or the one derived from the payer and the id.
-/
def Names (client : IronVaultClient (Vector UInt8 32)) (params : EscrowReference (Vector UInt8 32))
    (id : Int) (address : Vector UInt8 32) : Prop :=
  match given params.escrow with
  | some escrow => asPublicKey escrow = .ok address
  | none => deriveEscrowAddress client.payer id client.programId = .ok address

/--
Whenever the escrow that a reference names is one of the payer, it stores the id of the reference. A
reference with an id or an address that does not parse names none.
-/
def StoresNamedId (client : IronVaultClient (Vector UInt8 32))
    (connection : Connection (Vector UInt8 32)) (params : EscrowReference (Vector UInt8 32)) :
    Prop :=
  ∀ id address recipient mint tokenProgram, ∀ escrowId : UInt64,
    toBigInt params.escrowId "escrowId" = .ok id → client.Names params id address →
    Parses params.destinationToken → IsEscrow client connection address →
    Stores connection address client.payer recipient mint tokenProgram escrowId →
      escrowId.toNat = id

theorem addressOr_eq_ok_iff_names {address : Vector UInt8 32} :
    addressOr params.escrow (deriveEscrowAddress client.payer id client.programId) = .ok address ↔
      client.Names params id address := by
  unfold addressOr Names
  cases given params.escrow with
  | some escrow => exact Iff.rfl
  | none => exact Iff.rfl

end IronVaultClient

/--
The escrow actions act on the named escrow exactly if the account under the reference stores the
given id. `refundEscrow` checks this, `releaseEscrow` does not.
-/
theorem escrow_actions_hit_iff (client : IronVaultClient (Vector UInt8 32))
    (connection : Connection (Vector UInt8 32)) (params : EscrowReference (Vector UInt8 32)) :
    ((∀ sent, client.releaseEscrow connection params = .ok sent →
        client.ReleaseHits connection params sent) ∧
      (∀ sent, client.refundEscrow connection params = .ok sent →
        client.RefundHits connection params sent)) ↔
      client.StoresNamedId connection params := by
  constructor
  . rintro ⟨hrelease, -⟩ id address recipient mint tokenProgram escrowId hid hnames hparses hescrow
      hstores
    obtain ⟨recipientToken, hdestined⟩ :=
      (parses_iff (deriveAssociatedTokenAddress mint recipient tokenProgram)).mp hparses
    have h : client.Releases connection params id address
        ⟨client.payer, recipient, mint, tokenProgram, escrowId.toNat⟩ recipientToken :=
      ⟨hid, IronVaultClient.addressOr_eq_ok_iff_names.mpr hnames,
        fetchEscrow_of_stores hescrow hstores, rfl, hdestined⟩
    obtain ⟨sent, hsent⟩ := h.exists_sent
    exact (IronVaultClient.releaseHits_iff hsent h).mp (hrelease sent hsent)
  . intro hstored
    refine ⟨?_, fun sent => IronVaultClient.refundEscrow_hits⟩
    intro sent hsent
    obtain ⟨id, escrow, state, recipientToken, -, -, h, -⟩ :=
      IronVaultClient.releaseEscrow_sends hsent
    rw [IronVaultClient.releaseHits_iff hsent h]
    obtain ⟨hid, hnames, hstate, hmaker, hdestined⟩ := h
    obtain ⟨hescrow, escrowId, hescrowId, hstores⟩ := stores_of_fetchEscrow hstate
    rw [hmaker] at hstores
    rw [hescrowId]
    exact hstored id escrow _ _ _ escrowId hid (IronVaultClient.addressOr_eq_ok_iff_names.mp hnames)
      ((parses_iff _).mpr ⟨recipientToken, hdestined⟩) hescrow hstores

end Actions

namespace Scenario

/--
A reference to the recorded escrow, which has id 7, by its address.
-/
def reference (escrowId : Int) : EscrowReference (Vector UInt8 32) where
  escrowId := .bigint escrowId
  escrow := some (.publicKey escrow)
  destinationToken := none

theorem releases_recorded (escrowId : Int) :
    client.Releases connection (reference escrowId) escrowId escrow
      ⟨payer, recipient, mint, tokenProgram, 7⟩
      (deriveAssociatedTokenAddress mint recipient tokenProgram) := by
  refine ⟨rfl, rfl, fetchEscrow_accountData escrowAccount getAccountInfo_escrow, rfl, ?_⟩
  unfold Destined
  rfl

theorem escrow_actions_hit_iff_recorded :
    ∃ sent, client.releaseEscrow connection (reference 7) = .ok sent ∧
      client.ReleaseHits connection (reference 7) sent := by
  obtain ⟨sent, hsent⟩ := (releases_recorded 7).exists_sent
  refine ⟨sent, hsent, ?_⟩
  apply ((escrow_actions_hit_iff client connection (reference 7)).mpr ?_).1 sent hsent
  intro id address recipient' mint' tokenProgram' escrowId hid hnames hparses hescrow hstores
  obtain ⟨hid', hnames', hstate, -⟩ := releases_recorded 7
  rw [hid', Except.ok.injEq] at hid
  subst hid
  cases hnames.symm.trans (IronVaultClient.addressOr_eq_ok_iff_names.mp hnames')
  have hread := fetchEscrow_of_stores hescrow hstores
  rw [hstate, Except.ok.injEq, EscrowState.mk.injEq] at hread
  exact hread.2.2.2.2.symm

theorem release_misses_escrow :
    ∃ sent, client.releaseEscrow connection (reference 8) = .ok sent ∧
      ¬ client.ReleaseHits connection (reference 8) sent := by
  obtain ⟨sent, hsent⟩ := (releases_recorded 8).exists_sent
  refine ⟨sent, hsent, ?_⟩
  rw [IronVaultClient.releaseHits_iff hsent (releases_recorded 8)]
  decide

end Scenario

end IronVault.Client
