import Mathlib.Data.List.Nodup
import IronVault.Program.Impl.Codec
import IronVault.Observer.Impl.Events

/-!
This module contains that program and observer agree on the bytes of an event.
-/

namespace IronVault.Observer.Events

def IronVaultEvent.ofProgram : IronVault.IronVaultEvent Pubkey → IronVaultEvent
  | .protocolInitialized e => .protocolInitialized {
      version := e.version
      protocolConfig := e.protocolConfig
      admin := e.admin
      guardian := e.guardian
    }
  | .protocolPauseUpdated e => .protocolPauseUpdated {
      version := e.version
      protocolConfig := e.protocolConfig
      caller := e.caller
      previousFlags := e.previousFlags
      newFlags := e.newFlags
    }
  | .escrowCreated e => .escrowCreated {
      version := e.version
      escrow := e.escrow
      escrowToken := e.escrowToken
      maker := e.maker
      recipient := e.recipient
      mint := e.mint
      amount := e.amount
      createdAt := e.createdAt
      expiresAt := e.expiresAt
      escrowId := e.escrowId
    }
  | .escrowReleased e => .escrowReleased {
      version := e.version
      escrow := e.escrow
      escrowToken := e.escrowToken
      maker := e.maker
      recipient := e.recipient
      recipientToken := e.recipientToken
      mint := e.mint
      amount := e.amount
    }
  | .escrowRefunded e => .escrowRefunded {
      version := e.version
      escrow := e.escrow
      escrowToken := e.escrowToken
      caller := e.caller
      maker := e.maker
      makerDestination := e.makerDestination
      mint := e.mint
      amount := e.amount
    }
  | .vaultCreated e => .vaultCreated {
      version := e.version
      vault := e.vault
      namespaceAuthority := e.namespaceAuthority
      authority := e.authority
      guardian := e.guardian
      vaultId := e.vaultId
    }
  | .vaultAuthorityUpdated e => .vaultAuthorityUpdated {
      version := e.version
      vault := e.vault
      previousAuthority := e.previousAuthority
      newAuthority := e.newAuthority
    }
  | .vaultPauseUpdated e => .vaultPauseUpdated {
      version := e.version
      vault := e.vault
      caller := e.caller
      paused := e.paused
    }
  | .vaultAssetRegistered e => .vaultAssetRegistered {
      version := e.version
      vault := e.vault
      vaultAsset := e.vaultAsset
      vaultToken := e.vaultToken
      mint := e.mint
      tokenProgram := e.tokenProgram
    }
  | .vaultDeposit e => .vaultDeposit {
      version := e.version
      vault := e.vault
      vaultAsset := e.vaultAsset
      vaultToken := e.vaultToken
      depositor := e.depositor
      sourceToken := e.sourceToken
      mint := e.mint
      amount := e.amount
    }
  | .vaultWithdrawal e => .vaultWithdrawal {
      version := e.version
      vault := e.vault
      vaultAsset := e.vaultAsset
      vaultToken := e.vaultToken
      caller := e.caller
      destinationToken := e.destinationToken
      mint := e.mint
      amount := e.amount
    }
  | .roleGranted e => .roleGranted {
      version := e.version
      vault := e.vault
      principal := e.principal
      permissions := e.permissions
    }
  | .roleRevoked e => .roleRevoked {
      version := e.version
      vault := e.vault
      principal := e.principal
      previousPermissions := e.previousPermissions
    }
  | .vaultLimitsUpdated e => .vaultLimitsUpdated {
      version := e.version
      vault := e.vault
      vaultAsset := e.vaultAsset
      mint := e.mint
      caller := e.caller
      maxPerTransaction := e.maxPerTransaction
      windowLimit := e.windowLimit
      windowSeconds := e.windowSeconds
      timelockThreshold := e.timelockThreshold
      timelockSeconds := e.timelockSeconds
      requestExecutionWindowSeconds := e.requestExecutionWindowSeconds
      windowStartedAt := e.windowStartedAt
      windowSpent := e.windowSpent
    }
  | .withdrawalRequested e => .withdrawalRequested {
      version := e.version
      vault := e.vault
      vaultAsset := e.vaultAsset
      withdrawalRequest := e.withdrawalRequest
      proposer := e.proposer
      recipientOwner := e.recipientOwner
      recipientTokenAccount := e.recipientTokenAccount
      mint := e.mint
      withdrawalId := e.withdrawalId
      amount := e.amount
      createdAt := e.createdAt
      executeAfter := e.executeAfter
      expiresAt := e.expiresAt
    }
  | .withdrawalExecuted e => .withdrawalExecuted {
      version := e.version
      vault := e.vault
      vaultAsset := e.vaultAsset
      withdrawalRequest := e.withdrawalRequest
      caller := e.caller
      recipientTokenAccount := e.recipientTokenAccount
      mint := e.mint
      withdrawalId := e.withdrawalId
      amount := e.amount
    }
  | .withdrawalCancelled e => .withdrawalCancelled {
      version := e.version
      vault := e.vault
      withdrawalRequest := e.withdrawalRequest
      caller := e.caller
      proposer := e.proposer
      withdrawalId := e.withdrawalId
    }

section Serialize

theorem serialize_ofProgram (event : IronVault.IronVaultEvent Pubkey) :
    (IronVaultEvent.ofProgram event).serialize = event.serialize := by
  cases event <;> rfl

theorem name_ofProgram (event : IronVault.IronVaultEvent Pubkey) :
    (IronVaultEvent.ofProgram event).name = event.name := by
  cases event <;> rfl

theorem two_le_length_serialize {α : Type} [Borsh α] (version : UInt16) (fields : α) :
    2 ≤ (Borsh.serialize (version, fields)).length := by
  have hversion : (Borsh.serialize version).length = 2 := Borsh.length_toLittleEndian ..
  have happend : Borsh.serialize (version, fields)
      = Borsh.serialize version ++ Borsh.serialize fields := rfl
  rw [happend, List.length_append]
  omega

theorem IronVaultEvent.two_le_length (event : IronVaultEvent) : 2 ≤ event.serialize.length := by
  cases event <;> exact two_le_length_serialize ..

end Serialize

section Branch

theorem branch_serialize {α : Type} [Borsh α] (name : String) (event : α → IronVaultEvent)
    (fields : α) : (branch name event).2 (Borsh.serialize fields) = some (event fields) := by
  have hread : Borsh.tryFromSlice (Borsh.serialize fields) = some fields :=
    Borsh.tryFromSlice_eq_some.mpr rfl
  simp [branch, hread]

theorem branch_eq_some {α : Type} [Borsh α] {name : String} {event : α → IronVaultEvent}
    {bytes : List UInt8} {e : IronVaultEvent} (h : (branch name event).2 bytes = some e) :
    ∃ fields, event fields = e ∧ bytes = Borsh.serialize fields := by
  obtain ⟨fields, hfields, heq⟩ := Option.map_eq_some_iff.mp h
  exact ⟨fields, heq, Borsh.tryFromSlice_eq_some.mp hfields⟩

theorem exists_branch (event : IronVaultEvent) :
    ∃ b ∈ branches, b.1 = event.name ∧ b.2 event.serialize = some event := by
  cases event <;>
  . refine ⟨_, ?_, rfl, branch_serialize ..⟩
    simp [branches]

theorem of_mem_branches {b : String × (List UInt8 → Option IronVaultEvent)} (hb : b ∈ branches)
    {bytes : List UInt8} {event : IronVaultEvent} (h : b.2 bytes = some event) :
    b.1 = event.name ∧ bytes = event.serialize := by
  simp only [branches, List.mem_cons, List.not_mem_nil, or_false] at hb
  rcases hb with rfl | rfl | rfl | rfl | rfl | rfl | rfl | rfl | rfl | rfl | rfl | rfl | rfl | rfl |
    rfl | rfl | rfl <;>
  . obtain ⟨fields, rfl, hbytes⟩ := branch_eq_some h
    exact ⟨rfl, hbytes⟩

end Branch

variable (sha256 : String → Vector UInt8 32)

/--
The observer reads back every event that the program logs, and it accepts nothing else.
-/
structure CodecAgrees : Prop where
  decode_data (event : IronVault.IronVaultEvent Pubkey) :
    IronVaultEvent.decode sha256 (event.data sha256) = .ok (.ofProgram event)
  decode_iff {bytes : List UInt8} {event : IronVaultEvent} :
    IronVaultEvent.decode sha256 bytes = .ok event ↔
      bytes = discriminator sha256 event.name ++ event.serialize

section Decode

variable {sha256}

theorem length_discriminator (sha256 : String → Vector UInt8 32) (name : String) :
    (discriminator sha256 name).length = 8 := by
  simp [discriminator]

theorem find?_branch (hdistinct : (branches.map fun b => discriminator sha256 b.1).Nodup)
    {b : String × (List UInt8 → Option IronVaultEvent)} (hb : b ∈ branches) :
    branches.find? (fun (name, _) => discriminator sha256 b.1 = discriminator sha256 name)
      = some b := by
  cases hfind : branches.find?
      fun (name, _) => discriminator sha256 b.1 = discriminator sha256 name with
  | none =>
    rw [List.find?_eq_none] at hfind
    simpa using hfind b hb
  | some b' =>
    have hsame : discriminator sha256 b.1 = discriminator sha256 b'.1 := by
      simpa using List.find?_some hfind
    rw [List.inj_on_of_nodup_map hdistinct hb (List.mem_of_find?_eq_some hfind) hsame]

theorem decode_serialize (hdistinct : (branches.map fun b => discriminator sha256 b.1).Nodup)
    (event : IronVaultEvent) :
    IronVaultEvent.decode sha256 (discriminator sha256 event.name ++ event.serialize)
      = .ok event := by
  obtain ⟨b, hb, hname, hread⟩ := exists_branch event
  have hlength := length_discriminator sha256 event.name
  have hpayload := event.two_le_length
  unfold IronVaultEvent.decode
  rw [if_neg (by simp only [List.length_append]; omega), List.take_left' hlength,
    List.drop_left' hlength, ← hname, find?_branch hdistinct hb]
  simpa using hread

theorem eq_of_decode {bytes : List UInt8} {event : IronVaultEvent}
    (h : IronVaultEvent.decode sha256 bytes = .ok event) :
    bytes = discriminator sha256 event.name ++ event.serialize := by
  unfold IronVaultEvent.decode at h
  split at h
  . simp at h
  . split at h
    . next name read hfind =>
      have hdiscriminator : bytes.take 8 = discriminator sha256 name := by
        simpa using List.find?_some hfind
      rw [fetch_eq_ok] at h
      obtain ⟨hname, hpayload⟩ := of_mem_branches (List.mem_of_find?_eq_some hfind) h
      rw [← hname, ← hpayload, ← hdiscriminator, List.take_append_drop]
    . simp at h

end Decode

theorem codec_agrees (hdistinct : (branches.map fun b => discriminator sha256 b.1).Nodup) :
    CodecAgrees sha256 where
  decode_data event := by
    have hdata : event.data sha256 = discriminator sha256 (IronVaultEvent.ofProgram event).name
        ++ (IronVaultEvent.ofProgram event).serialize := by
      rw [name_ofProgram, serialize_ofProgram]
      rfl
    rw [hdata, decode_serialize hdistinct]
  decode_iff := by
    intro bytes event
    constructor
    . exact eq_of_decode
    . rintro rfl
      exact decode_serialize hdistinct event

def digest (n : Nat) : Vector UInt8 32 :=
  .ofFn fun i => UInt8.ofNat (n / 256 ^ (31 - i.val))

def eventDigest : String → Vector UInt8 32
  | "event:ProtocolInitialized" =>
    digest 0xad7aa8fe09764c84e23037900fbed2def076943f7dd3e46f7809afc7465607be
  | "event:ProtocolPauseUpdated" =>
    digest 0x12706113b646a2e26c6a312b1b3ae6c891e0881b49f776ab5ca1d9aa0b273c4b
  | "event:EscrowCreated" =>
    digest 0x467f69665c6107ad9157716aea44c3eae4ffbad19cae8dcd446bca9829927040
  | "event:EscrowReleased" =>
    digest 0x83078a68a6be7170c6ede78002fd2414aad0f37af3dd6e98eae321ade846c691
  | "event:EscrowRefunded" =>
    digest 0x84d1316d878a1c51a5071e51764a06a8203901532cb3e449679f5c3b59246b1a
  | "event:VaultCreated" =>
    digest 0x751978fe4bec4e73de95e4f03687acb4b858bb13a3830c67af84e26a9ca7ee54
  | "event:VaultAuthorityUpdated" =>
    digest 0xddc504c21e639ee1e3e77de864d594b149146da43c5ae95bdbada6b41302bc9a
  | "event:VaultPauseUpdated" =>
    digest 0xc0fd4501d2b85f32051dd44c0754c98f0e2dd8e36a4bba4d66b190726c98dcf4
  | "event:VaultAssetRegistered" =>
    digest 0x454d8717bf7ddf6690235f9b0fe513e445405a78920eeb843245b3a100cc3ba1
  | "event:VaultDeposit" =>
    digest 0x04f8eaa363ee8c2dcff202eb0721f0dd06be52932fa6f9d9fa9c193476d358a4
  | "event:VaultWithdrawal" =>
    digest 0xa86d5ffc4cf0ed38c2d66e4842628ddcf9e1e5fc7fd9bfb9b14cddd2294449ff
  | "event:RoleGranted" =>
    digest 0xdcb759e48f3ff63a2c529e089c400eeaa144fe51de844e0dbb341c820cdb358e
  | "event:RoleRevoked" =>
    digest 0xa7b734e57ece3e3dccbf9d9fcb3b2c96c1fad2c4096063cc70967a321bee2871
  | "event:VaultLimitsUpdated" =>
    digest 0x7044dde62a54fc2b9b35ebda6c8bd53d58df7b5f126a6565d23ef8c7a7f11967
  | "event:WithdrawalRequested" =>
    digest 0x4bcf150ca0669637acd4fabce6c0d412e13a0a41bf23fc5c0e43fca685239731
  | "event:WithdrawalExecuted" =>
    digest 0x254ec7c03344ada29e25f3200431e903230f1f9ca27d6f0de8a261d795098ba5
  | "event:WithdrawalCancelled" =>
    digest 0x77afcf50baede509e79e9aaddef06812fc2a527fdd94495e799be219e98f2944
  | _ => digest 0

theorem codec_agrees_eventDigest : CodecAgrees eventDigest :=
  codec_agrees eventDigest (by decide +kernel)

end IronVault.Observer.Events
