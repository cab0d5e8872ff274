import IronVault.Client.Impl.Events
import IronVault.Client.Layout
import IronVault.Observer.Codec

/-!
This module contains that the two readers of the logs agree: what the observer reads from a log message
and what the client reads from it.
-/

namespace IronVault.Observer.Events

def IronVaultEvent.version : IronVaultEvent → UInt16
  | .protocolInitialized event => event.version
  | .protocolPauseUpdated event => event.version
  | .escrowCreated event => event.version
  | .escrowReleased event => event.version
  | .escrowRefunded event => event.version
  | .vaultCreated event => event.version
  | .vaultAuthorityUpdated event => event.version
  | .vaultPauseUpdated event => event.version
  | .vaultAssetRegistered event => event.version
  | .vaultDeposit event => event.version
  | .vaultWithdrawal event => event.version
  | .roleGranted event => event.version
  | .roleRevoked event => event.version
  | .vaultLimitsUpdated event => event.version
  | .withdrawalRequested event => event.version
  | .withdrawalExecuted event => event.version
  | .withdrawalCancelled event => event.version

/--
The fields of an event without the version that all events begin with.
-/
def IronVaultEvent.fields (event : IronVaultEvent) : List UInt8 :=
  event.serialize.drop 2

theorem drop_serialize {α : Type} [Borsh α] (version : UInt16) (fields : α) :
    Borsh.serialize (version, fields)
      = Borsh.serialize version ++ (Borsh.serialize (version, fields)).drop 2 := by
  have happend : Borsh.serialize (version, fields)
      = Borsh.serialize version ++ Borsh.serialize fields := rfl
  have hversion : (Borsh.serialize version).length = 2 := Borsh.length_toLittleEndian ..
  rw [happend, List.drop_left' hversion]

theorem serialize_eq_version (event : IronVaultEvent) :
    event.serialize = Borsh.serialize event.version ++ event.fields := by
  cases event <;> exact drop_serialize ..

theorem decode_eq_ok_iff {sha256 : String → Vector UInt8 32}
    (hdistinct : (branches.map fun b => discriminator sha256 b.1).Nodup) {bytes : List UInt8}
    {event : IronVaultEvent} :
    IronVaultEvent.decode sha256 bytes = .ok event
      ↔ bytes = discriminator sha256 event.name ++ event.serialize := by
  constructor
  . exact eq_of_decode
  . rintro rfl
    exact decode_serialize hdistinct event

end IronVault.Observer.Events

namespace IronVault.Client

open Observer Observer.Events

section Hex

theorem digitChar_inj {m n : Nat} (hm : m < 16) (hn : n < 16) (h : m.digitChar = n.digitChar) :
    m = n := by
  have hcheck : ∀ m < 16, ∀ n < 16, Nat.digitChar m = Nat.digitChar n → m = n := by decide
  exact hcheck m hm n hn h

theorem hex_injective : Function.Injective hex := by
  intro bytes bytes' h
  induction bytes generalizing bytes' with
  | nil =>
    cases bytes' with
    | nil => rfl
    | cons byte' bytes' => cases h
  | cons byte bytes ih =>
    cases bytes' with
    | nil => cases h
    | cons byte' bytes' =>
      have hlist : [Nat.digitChar (byte.toNat / 16), Nat.digitChar (byte.toNat % 16)] ++ hex bytes
          = [Nat.digitChar (byte'.toNat / 16), Nat.digitChar (byte'.toNat % 16)] ++ hex bytes' := h
      simp only [List.cons_append, List.nil_append, List.cons.injEq] at hlist
      have hbyte := byte.toNat_lt
      have hbyte' := byte'.toNat_lt
      have hhigh := digitChar_inj (by omega) (by omega) hlist.1
      have hlow := digitChar_inj (by omega) (by omega) hlist.2.1
      have heq : byte = byte' := by
        apply UInt8.toNat_inj.mp
        omega
      rw [heq, ih hlist.2.2]

end Hex

section Envelope

variable {PublicKey : Type} [Web3 PublicKey] {data : List UInt8}

/--
What the client makes of an event that the observer decodes.
-/
def IronVaultEventEnvelope.ofEvent (event : Events.IronVaultEvent) : IronVaultEventEnvelope where
  name := event.name
  version := event.version.toNat
  payload := event.fields

theorem anchorDiscriminator_event (name : String) :
    anchorDiscriminator PublicKey "event" name = discriminator (Web3.sha256 PublicKey) name := by
  unfold anchorDiscriminator discriminator subarray
  rw [List.drop_zero]
  rfl

-- Both readers try the names in the same order.
theorem identifyIronVaultEvent_eq :
    identifyIronVaultEvent PublicKey data
      = (branches.find? fun b =>
          data.take 8 = discriminator (Web3.sha256 PublicKey) b.1).map Prod.fst := by
  have hnames : ironVaultEventNames = branches.map Prod.fst := rfl
  unfold identifyIronVaultEvent ironVaultEventDiscriminator
  rw [hnames, List.find?_map]
  simp only [hex_injective.eq_iff, anchorDiscriminator_event, subarray, List.drop_zero]
  congr 2
  funext b
  simp [eq_comm]

theorem find?_eq {b : Option (String × (List UInt8 → Option Events.IronVaultEvent))}
    (h : (branches.find? fun (name, _) =>
      data.take 8 = discriminator (Web3.sha256 PublicKey) name) = b) :
    (branches.find? fun b => data.take 8 = discriminator (Web3.sha256 PublicKey) b.1) = b :=
  h

theorem readUInt16LE_eq (h : ¬ data.length < 10) :
    readUInt16LE data 8 = .ok (Borsh.ofLittleEndian ((data.drop 8).take 2)) := by
  unfold readUInt16LE subarray
  rw [if_pos (by omega), List.drop_take]

theorem eq_take_drop (data : List UInt8) :
    data = data.take 8 ++ ((data.drop 8).take 2 ++ data.drop 10) := by
  have hrest : (data.drop 8).take 2 ++ data.drop 10 = data.drop 8 := by
    rw [← List.drop_drop (i := 2) (j := 8), List.take_append_drop]
  rw [hrest, List.take_append_drop]

theorem decodeIronVaultEventEnvelope_eq :
    decodeIronVaultEventEnvelope PublicKey data =
      if data.length < 10 then
        .error (.error "IronVault event data is truncated")
      else
        match branches.find? fun b => data.take 8 = discriminator (Web3.sha256 PublicKey) b.1 with
        | some b => .ok ⟨b.1, Borsh.ofLittleEndian ((data.drop 8).take 2), data.drop 10⟩
        | none => .error (.error "unknown IronVault event discriminator") := by
  unfold decodeIronVaultEventEnvelope
  split
  . rfl
  . next hlength =>
    rw [identifyIronVaultEvent_eq, readUInt16LE_eq hlength]
    cases branches.find? fun b =>
      data.take 8 = discriminator (Web3.sha256 PublicKey) b.1 <;> rfl

theorem eq_of_decodeIronVaultEventEnvelope {event : Events.IronVaultEvent}
    (h : decodeIronVaultEventEnvelope PublicKey data = .ok (.ofEvent event)) :
    data = discriminator (Web3.sha256 PublicKey) event.name ++ event.serialize := by
  rw [decodeIronVaultEventEnvelope_eq] at h
  split at h
  . cases h
  . next hlength =>
    split at h
    . next b hfind =>
      have hdiscriminator : data.take 8 = discriminator (Web3.sha256 PublicKey) b.1 := by
        simpa using List.find?_some hfind
      simp only [Except.ok.injEq, IronVaultEventEnvelope.ofEvent,
        IronVaultEventEnvelope.mk.injEq] at h
      obtain ⟨hname, hversion, hpayload⟩ := h
      have hlength' : ((data.drop 8).take 2).length = 2 := by
        rw [List.length_take, List.length_drop]
        omega
      have hbytes : Borsh.serialize event.version = (data.drop 8).take 2 := by
        have hbytes := Borsh.toLittleEndian_ofLittleEndian ((data.drop 8).take 2)
        rw [hlength', hversion] at hbytes
        exact hbytes
      rw [serialize_eq_version, hbytes, ← hpayload, ← hname, ← hdiscriminator]
      exact eq_take_drop data
    . cases h

theorem decodeIronVaultEventEnvelope_of_decode {event : Events.IronVaultEvent}
    (h : IronVaultEvent.decode (Web3.sha256 PublicKey) data = .ok event) :
    decodeIronVaultEventEnvelope PublicKey data = .ok (.ofEvent event) := by
  unfold IronVaultEvent.decode at h
  rw [decodeIronVaultEventEnvelope_eq]
  split at h
  . cases h
  . next hlength =>
    rw [if_neg hlength]
    split at h
    . next name read hfind =>
      have hfind' := find?_eq hfind
      simp only [hfind']
      rw [fetch_eq_ok] at h
      obtain ⟨hname, hserialize⟩ := of_mem_branches (List.mem_of_find?_eq_some hfind) h
      have hversion : (Borsh.serialize event.version).length = 2 := Borsh.length_toLittleEndian ..
      rw [serialize_eq_version] at hserialize
      have hpayload : data.drop 10 = event.fields := by
        rw [← List.drop_drop (i := 2) (j := 8), hserialize, List.drop_left' hversion]
      have hread : Borsh.ofLittleEndian (Borsh.serialize event.version) = event.version.toNat :=
        Borsh.ofLittleEndian_toLittleEndian event.version.toNat_lt
      rw [hpayload, hserialize, List.take_left' hversion, hread]
      exact congrArg Except.ok (congrArg (IronVaultEventEnvelope.mk · _ _) hname)
    . cases h

/--
The observer rejects a payload that the client passes on without looking into it. It is not the
payload of any event.
-/
theorem decodeIronVaultEventEnvelope_of_invalidPayload
    (hdistinct : (branches.map fun b => discriminator (Web3.sha256 PublicKey) b.1).Nodup)
    {name : String}
    (h : IronVaultEvent.decode (Web3.sha256 PublicKey) data = .error (.invalidPayload name)) :
    ∃ envelope, decodeIronVaultEventEnvelope PublicKey data = .ok envelope ∧
      envelope.name = name ∧ ∀ event, .ofEvent event ≠ envelope := by
  have hnone (event : Events.IronVaultEvent) :
      decodeIronVaultEventEnvelope PublicKey data ≠ .ok (.ofEvent event) := by
    intro hok
    rw [(decode_eq_ok_iff hdistinct).mpr (eq_of_decodeIronVaultEventEnvelope hok)] at h
    cases h
  unfold IronVaultEvent.decode at h
  rw [decodeIronVaultEventEnvelope_eq] at hnone ⊢
  split at h
  . cases h
  . next hlength =>
    rw [if_neg hlength] at hnone ⊢
    split at h
    . next name' read hfind =>
      have hfind' := find?_eq hfind
      simp only [hfind'] at hnone ⊢
      rw [fetch_eq_error] at h
      obtain ⟨-, heq⟩ := h
      cases heq
      refine ⟨_, rfl, rfl, ?_⟩
      intro event heq
      exact hnone event (congrArg Except.ok heq.symm)
    . cases h

theorem ofEvent_injective
    (hdistinct : (branches.map fun b => discriminator (Web3.sha256 PublicKey) b.1).Nodup) :
    Function.Injective IronVaultEventEnvelope.ofEvent := by
  intro event event' h
  have hdecode (event : Events.IronVaultEvent) := decode_serialize hdistinct event
  have hok := decodeIronVaultEventEnvelope_of_decode (hdecode event)
  rw [h] at hok
  have heq := hdecode event
  rw [eq_of_decodeIronVaultEventEnvelope hok, hdecode event'] at heq
  exact (Except.ok.inj heq).symm

end Envelope

section Logs

variable {PublicKey : Type} [Web3 PublicKey]

/--
What the client reads for each answer of the observer. Only the observer looks into the payload.
-/
inductive SameReading : Except DecodeError (Option Events.IronVaultEvent) →
    Except Exception (Option IronVaultEventEnvelope) → Prop where
  | ignored : SameReading (.ok none) (.ok none)
  | event (event : Events.IronVaultEvent) :
      SameReading (.ok (some event)) (.ok (some (.ofEvent event)))
  | truncated :
      SameReading (.error .shorterThanDiscriminator) (.error (.error "IronVault event data is truncated"))
  | unknown :
      SameReading (.error .unknownDiscriminator)
        (.error (.error "unknown IronVault event discriminator"))
  | invalidPayload {envelope : IronVaultEventEnvelope} (h : ∀ event, .ofEvent event ≠ envelope) :
      SameReading (.error (.invalidPayload envelope.name)) (.ok (some envelope))

theorem sameReading_decode
    (hdistinct : (branches.map fun b => discriminator (Web3.sha256 PublicKey) b.1).Nodup)
    (data : List UInt8) :
    SameReading ((IronVaultEvent.decode (Web3.sha256 PublicKey) data).map some)
      ((decodeIronVaultEventEnvelope PublicKey data).map some) := by
  cases hdecode : IronVaultEvent.decode (Web3.sha256 PublicKey) data with
  | ok event =>
    rw [decodeIronVaultEventEnvelope_of_decode hdecode]
    exact .event event
  | error e =>
    have hinvalid := hdecode
    unfold IronVaultEvent.decode at hdecode
    split at hdecode
    . next hlength =>
      cases hdecode
      rw [decodeIronVaultEventEnvelope_eq, if_pos hlength]
      exact .truncated
    . next hlength =>
      split at hdecode
      . next name read hfind =>
        obtain ⟨-, rfl⟩ := fetch_eq_error.mp hdecode
        obtain ⟨envelope, hok, rfl, hne⟩ :=
          decodeIronVaultEventEnvelope_of_invalidPayload hdistinct hinvalid
        rw [hok]
        exact .invalidPayload hne
      . next hfind =>
        have hfind' := find?_eq hfind
        cases hdecode
        rw [decodeIronVaultEventEnvelope_eq, if_neg hlength]
        simp only [hfind']
        exact .unknown

theorem event_readers_agree
    (hdistinct : (branches.map fun b => discriminator (Web3.sha256 PublicKey) b.1).Nodup)
    {standard : Text → Option (List UInt8)} {bufferFrom : Text → List UInt8}
    (hbuffer : ∀ text bytes, standard text = some bytes → bufferFrom text = bytes) :
    (∀ log, SameReading (decodeProgramData (Web3.sha256 PublicKey) standard log)
        (decodeIronVaultEventLog PublicKey bufferFrom log) ∨
      -- Only the decoder of the client is lenient.
      ∃ encoded, log = "Program data: ".toList ++ encoded ∧ standard encoded = none ∧
        decodeProgramData (Web3.sha256 PublicKey) standard log = .error .invalidBase64 ∧
        decodeIronVaultEventLog PublicKey bufferFrom log
          = (decodeIronVaultEventEnvelope PublicKey (bufferFrom encoded)).map some) ∧
      Function.Injective IronVaultEventEnvelope.ofEvent ∧
      ∀ (event : IronVault.IronVaultEvent (Vector UInt8 32)) text,
        standard text = some (event.data (Web3.sha256 PublicKey)) →
        decodeIronVaultEventLog PublicKey bufferFrom ("Program data: ".toList ++ text)
          = .ok (some (.ofEvent (.ofProgram event))) := by
  refine ⟨?_, ofEvent_injective hdistinct, ?_⟩
  . intro log
    unfold decodeProgramData decodeIronVaultEventLog
    cases hstrip : Text.stripPrefix "Program data: ".toList log with
    | none => exact .inl .ignored
    | some encoded =>
      cases hstandard : standard encoded with
      | none =>
        right
        refine ⟨encoded, Text.eq_of_stripPrefix hstrip, hstandard, ?_, rfl⟩
        simp only [hstandard]
        rfl
      | some bytes =>
        left
        have hread := sameReading_decode hdistinct bytes
        simp only [hbuffer encoded bytes hstandard, hstandard]
        exact hread
  . intro event text htext
    have hdata : event.data (Web3.sha256 PublicKey)
        = discriminator (Web3.sha256 PublicKey) (IronVaultEvent.ofProgram event).name
          ++ (IronVaultEvent.ofProgram event).serialize := by
      rw [name_ofProgram, serialize_ofProgram]
      rfl
    have hok := decodeIronVaultEventEnvelope_of_decode
      (decode_serialize hdistinct (IronVaultEvent.ofProgram event))
    unfold decodeIronVaultEventLog
    rw [Text.stripPrefix_append]
    simp only [hbuffer text _ htext, hdata, hok]
    rfl

end Logs

section Witness

open Client.Scenario

local instance eventWeb3 : Web3 (Vector UInt8 32) :=
  { (inferInstance : Web3 (Vector UInt8 32)) with sha256 := eventDigest }

def pausedEvent : IronVault.IronVaultEvent (Vector UInt8 32) :=
  .vaultPauseUpdated ⟨1, .replicate 32 1, .replicate 32 2, true⟩

def pausedText : Text :=
  "wP1FAdK4XzIBAAEBAQEBAQEBAQEBAQEBAQEBAQEBAQEBAQEBAQEBAQEBAgICAgICAgICAgICAgICAgICAgICAgICAgICAgICAgIB".toList

-- Both decoders, on the one text that is read.
def pausedStandard (text : Text) : Option (List UInt8) :=
  if text = pausedText then some (pausedEvent.data eventDigest) else none

def pausedBuffer (text : Text) : List UInt8 :=
  (pausedStandard text).getD []

theorem event_readers_agree_paused :
    decodeIronVaultEventLog (Vector UInt8 32) pausedBuffer ("Program data: ".toList ++ pausedText)
      = .ok (some ⟨"VaultPauseUpdated", 1,
          List.replicate 32 1 ++ List.replicate 32 2 ++ [1]⟩) := by
  have hbuffer : ∀ text bytes, pausedStandard text = some bytes → pausedBuffer text = bytes := by
    intro text bytes htext
    unfold pausedBuffer
    rw [htext]
    rfl
  obtain ⟨-, -, hread⟩ := @event_readers_agree (Vector UInt8 32) _ (by decide +kernel) _ _ hbuffer
  rw [hread pausedEvent pausedText (if_pos rfl)]
  rfl

end Witness

end IronVault.Client
