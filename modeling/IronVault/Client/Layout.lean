import IronVault.Client.Lemmas.Fetch

/-!
This module contains that the account readers of the client agree with the layout of the accounts on
chain. Keys are 32 bytes here, which the offsets of the readers rely on.
-/

namespace IronVault.Client

section Field

variable {field back : List UInt8} {start stop : Nat}

/--
The bytes between two offsets are a field if so many bytes stand before it and in it.
-/
theorem subarray_field (front : List UInt8) (hstart : front.length = start)
    (hstop : start + field.length = stop) :
    subarray (front ++ (field ++ back)) start stop = field := by
  have hzero : start - front.length = 0 := by omega
  rw [subarray_append_right (by omega), subarray_append_left (by omega), hzero]
  apply subarray_all
  omega

theorem ofBuffer_field {key : Vector UInt8 32} (front : List UInt8) (hstart : front.length = start)
    (hstop : start + 32 = stop) :
    ofBuffer (subarray (front ++ (Borsh.serialize key ++ back)) start stop) = .ok key := by
  rw [ofBuffer_eq_ok]
  exact subarray_field front hstart (by simpa using hstop)

theorem readBigUInt64LE_field {value : UInt64} (front : List UInt8)
    (hstart : front.length = start) :
    readBigUInt64LE (front ++ (Borsh.serialize value ++ back)) start = .ok (value.toNat : Int) := by
  unfold readBigUInt64LE
  rw [if_pos (by simp; omega), subarray_field front hstart (by simp)]
  simp only [Borsh.serialize]
  rw [Borsh.ofLittleEndian_toLittleEndian value.toNat_lt]

end Field

section Account

variable {sha256 : String → Vector UInt8 32} {space : Nat}

theorem length_serialize_escrow (escrow : Escrow (Vector UInt8 32)) :
    8 + (Borsh.serialize escrow).length = Escrow.space := by
  simp [serialize_escrow, Escrow.space]

theorem length_serialize_vault (vault : Vault (Vector UInt8 32)) :
    8 + (Borsh.serialize vault).length = Vault.space := by
  simp [serialize_vault, Vault.space]

theorem le_length_accountData {α : Type} [Borsh α] (type : AccountType) (value : α) :
    8 + (Borsh.serialize value).length ≤ (accountData sha256 type space value).length := by
  unfold accountData
  simp only [List.length_append, AccountType.length_discriminator]
  omega

theorem subarray_accountData {α : Type} [Borsh α] (type : AccountType) (value : α) :
    subarray (accountData sha256 type space value) 0 8 = type.discriminator sha256 := by
  unfold accountData
  rw [List.append_assoc, subarray_append_left (by simp), subarray_all (by simp)]

theorem accountData_escrow (sha256 : String → Vector UInt8 32) (space : Nat)
    (escrow : Escrow (Vector UInt8 32)) :
    ∃ back, accountData sha256 .escrow space escrow =
      AccountType.discriminator sha256 .escrow ++ (Borsh.serialize escrow.maker ++
        (Borsh.serialize escrow.recipient ++ (Borsh.serialize escrow.mint ++
          (Borsh.serialize escrow.tokenProgram ++ (Borsh.serialize escrow.escrowId ++ back))))) := by
  unfold accountData
  simp only [serialize_escrow, List.append_assoc]
  exact ⟨_, rfl⟩

theorem accountData_vault (sha256 : String → Vector UInt8 32) (space : Nat)
    (vault : Vault (Vector UInt8 32)) :
    ∃ back, accountData sha256 .vault space vault =
      AccountType.discriminator sha256 .vault ++ (Borsh.serialize vault.namespaceAuthority ++
        (Borsh.serialize vault.authority ++ (Borsh.serialize vault.guardian ++
          (Borsh.serialize vault.vaultId ++ (Borsh.serialize vault.nextWithdrawalId ++ back))))) := by
  unfold accountData
  simp only [serialize_vault, List.append_assoc]
  exact ⟨_, rfl⟩

end Account

section Read

variable [Web3 (Vector UInt8 32)] {client : IronVaultClient (Vector UInt8 32)}
variable {connection : Connection (Vector UInt8 32)} {address : Vector UInt8 32} {space : Nat}

open IronVaultClient

theorem anchorDiscriminator_account (type : AccountType) :
    anchorDiscriminator (Vector UInt8 32) "account" type.name =
      type.discriminator (Web3.sha256 (Vector UInt8 32)) := by
  unfold anchorDiscriminator AccountType.discriminator subarray
  rw [List.drop_zero]
  rfl

theorem fetchProgramAccount_accountData {α : Type} [Borsh α] (type : AccountType) {value : α}
    {minimumLength : Nat} (hminimum : minimumLength ≤ 8 + (Borsh.serialize value).length)
    (hfetched : connection.getAccountInfo address =
      .ok (some ⟨client.programId, accountData (Web3.sha256 (Vector UInt8 32)) type space value⟩)) :
    client.fetchProgramAccount connection address type.name minimumLength =
      .ok (accountData (Web3.sha256 (Vector UInt8 32)) type space value) := by
  rw [fetchProgramAccount_eq_ok, anchorDiscriminator_account, subarray_accountData]
  exact ⟨hfetched, hminimum.trans (le_length_accountData type value), rfl⟩

theorem fetchEscrow_of_fields {front back : List UInt8}
    {maker recipient mint tokenProgram : Vector UInt8 32} {escrowId : UInt64}
    (hdata : client.fetchProgramAccount connection address "Escrow" 170 =
      .ok (front ++ (Borsh.serialize maker ++ (Borsh.serialize recipient ++ (Borsh.serialize mint ++
        (Borsh.serialize tokenProgram ++ (Borsh.serialize escrowId ++ back)))))))
    (hfront : front.length = 8) :
    client.fetchEscrow connection address =
      .ok ⟨maker, recipient, mint, tokenProgram, escrowId.toNat⟩ := by
  rw [fetchEscrow_eq_ok]
  -- Each field is read behind the ones before it.
  refine ⟨_, hdata, ?_, ?_, ?_, ?_, ?_⟩
  . exact ofBuffer_field _ hfront rfl
  . rw [← List.append_assoc]
    exact ofBuffer_field _ (by simp [hfront]) rfl
  . rw [← List.append_assoc, ← List.append_assoc]
    exact ofBuffer_field _ (by simp [hfront]) rfl
  . rw [← List.append_assoc, ← List.append_assoc, ← List.append_assoc]
    exact ofBuffer_field _ (by simp [hfront]) rfl
  . rw [← List.append_assoc, ← List.append_assoc, ← List.append_assoc, ← List.append_assoc]
    exact readBigUInt64LE_field _ (by simp [hfront])

theorem fetchEscrow_accountData (escrow : Escrow (Vector UInt8 32))
    (hfetched : connection.getAccountInfo address =
      .ok (some ⟨client.programId,
        accountData (Web3.sha256 (Vector UInt8 32)) .escrow space escrow⟩)) :
    client.fetchEscrow connection address = .ok {
      maker := escrow.maker
      recipient := escrow.recipient
      mint := escrow.mint
      tokenProgram := escrow.tokenProgram
      escrowId := escrow.escrowId.toNat
    } := by
  have hminimum : 170 ≤ 8 + (Borsh.serialize escrow).length := by
    rw [length_serialize_escrow]
    decide
  obtain ⟨back, hback⟩ := accountData_escrow (Web3.sha256 (Vector UInt8 32)) space escrow
  have hdata := fetchProgramAccount_accountData .escrow hminimum hfetched
  rw [hback] at hdata
  exact fetchEscrow_of_fields hdata (AccountType.length_discriminator ..)

theorem fetchVault_accountData (vault : Vault (Vector UInt8 32))
    (hfetched : connection.getAccountInfo address =
      .ok (some ⟨client.programId,
        accountData (Web3.sha256 (Vector UInt8 32)) .vault space vault⟩)) :
    client.fetchVault connection address = .ok {
      authority := vault.authority
      nextWithdrawalId := vault.nextWithdrawalId.toNat
    } := by
  have hminimum : 120 ≤ 8 + (Borsh.serialize vault).length := by
    rw [length_serialize_vault]
    decide
  obtain ⟨back, hback⟩ := accountData_vault (Web3.sha256 (Vector UInt8 32)) space vault
  rw [fetchVault_eq_ok]
  refine ⟨_, fetchProgramAccount_accountData .vault hminimum hfetched, ?_⟩
  rw [hback]
  refine ⟨?_, ?_⟩
  . rw [← List.append_assoc]
    exact ofBuffer_field _ (by simp) rfl
  . rw [← List.append_assoc, ← List.append_assoc, ← List.append_assoc, ← List.append_assoc]
    exact readBigUInt64LE_field _ (by simp)

theorem read_rejects {α : Type} {read : List UInt8 → Except Exception α} (type : AccountType)
    {minimumLength : Nat} {account : AccountInfo (Vector UInt8 32)}
    (hfetched : connection.getAccountInfo address = .ok (some account))
    (h : account.owner ≠ client.programId ∨ account.data.length < minimumLength ∨
      subarray account.data 0 8 ≠ type.discriminator (Web3.sha256 (Vector UInt8 32))) :
    ∃ message, client.fetchProgramAccount connection address type.name minimumLength >>= read =
      .error (.error message) := by
  rw [← anchorDiscriminator_account] at h
  obtain ⟨message, hmessage⟩ := fetchProgramAccount_rejects hfetched h
  refine ⟨message, ?_⟩
  rw [Except.bind_eq_error_iff]
  exact .inl hmessage

/--
`fetchEscrow` and `fetchVault` return what the account holds, for every value of the two types, and
reject accounts of other programs, accounts of other types and data that ends before the last byte
they read.
-/
structure ReadersAgree (client : IronVaultClient (Vector UInt8 32)) : Prop where
  fetchEscrow {connection : Connection (Vector UInt8 32)} {address : Vector UInt8 32} {space : Nat}
    (escrow : Escrow (Vector UInt8 32)) : Escrow.space ≤ space →
    connection.getAccountInfo address = .ok (some ⟨client.programId,
      accountData (Web3.sha256 (Vector UInt8 32)) .escrow space escrow⟩) →
      client.fetchEscrow connection address = .ok {
        maker := escrow.maker
        recipient := escrow.recipient
        mint := escrow.mint
        tokenProgram := escrow.tokenProgram
        escrowId := escrow.escrowId.toNat
      }
  fetchVault {connection : Connection (Vector UInt8 32)} {address : Vector UInt8 32} {space : Nat}
    (vault : Vault (Vector UInt8 32)) : Vault.space ≤ space →
    connection.getAccountInfo address = .ok (some ⟨client.programId,
      accountData (Web3.sha256 (Vector UInt8 32)) .vault space vault⟩) →
      client.fetchVault connection address = .ok {
        authority := vault.authority
        nextWithdrawalId := vault.nextWithdrawalId.toNat
      }
  rejectsEscrow {connection : Connection (Vector UInt8 32)} {address : Vector UInt8 32}
    {account : AccountInfo (Vector UInt8 32)} :
    connection.getAccountInfo address = .ok (some account) →
    (account.owner ≠ client.programId ∨ account.data.length < 136 + 8 ∨
      ∃ type : AccountType, type ≠ .escrow ∧
        account.data.take 8 = type.discriminator (Web3.sha256 (Vector UInt8 32))) →
      ∃ message, client.fetchEscrow connection address = .error (.error message)
  rejectsVault {connection : Connection (Vector UInt8 32)} {address : Vector UInt8 32}
    {account : AccountInfo (Vector UInt8 32)} :
    connection.getAccountInfo address = .ok (some account) →
    (account.owner ≠ client.programId ∨ account.data.length < 112 + 8 ∨
      ∃ type : AccountType, type ≠ .vault ∧
        account.data.take 8 = type.discriminator (Web3.sha256 (Vector UInt8 32))) →
      ∃ message, client.fetchVault connection address = .error (.error message)

theorem readers_agree
    (hdistinct : Function.Injective (AccountType.discriminator (Web3.sha256 (Vector UInt8 32))))
    (client : IronVaultClient (Vector UInt8 32)) : ReadersAgree client where
  fetchEscrow escrow _ hfetched := fetchEscrow_accountData escrow hfetched
  fetchVault vault _ hfetched := fetchVault_accountData vault hfetched
  rejectsEscrow {connection address account} hfetched h := by
    apply read_rejects .escrow hfetched
    rcases h with howner | hlength | ⟨type, hne, htype⟩
    . exact .inl howner
    . exact .inr (.inl (by omega))
    . refine .inr (.inr ?_)
      unfold subarray
      rw [List.drop_zero, htype]
      exact hdistinct.ne hne
  rejectsVault {connection address account} hfetched h := by
    apply read_rejects .vault hfetched
    rcases h with howner | hlength | ⟨type, hne, htype⟩
    . exact .inl howner
    . exact .inr (.inl (by omega))
    . refine .inr (.inr ?_)
      unfold subarray
      rw [List.drop_zero, htype]
      exact hdistinct.ne hne

end Read

namespace Scenario

def bytes32 (n : Nat) : Vector UInt8 32 :=
  .ofFn fun i => UInt8.ofNat (n / 256 ^ (31 - i.val))

-- What the hash library and web3.js answer for the texts, seeds and keys that occur in the calls.
def digests : List (String × Nat) := [
  ("account:ProtocolConfig", 0xcf5bfa1c98b3d7d1352f7c45c3e410a266e1ce26fedfb7f8703e8d4d1bc1a6fb),
  ("account:Escrow", 0x1fd57bbbba16da9b07053b90144c58818edf3bee1e433f73560fb6df7c72dae2),
  ("account:Vault", 0xd308e82b02987577d923bc94c256a761d12fa4220b2a0bd7cf36f3c6872aaa39),
  ("account:VaultAsset", 0x26d506215e7768b5985663b3deedbb857efd15436e808d42abf2b5b9b3105760),
  ("account:RoleAssignment", 0xcd82bfe7d3e19bf6e18c4e167f45e073f8d340f02d24d3c012a142c06c37671a),
  ("account:WithdrawalRequest", 0xf25893adb63ee5c1c635c6010598fa7512c2e2df0590e983b776329d8e634208),
  ("global:create_escrow", 0xfdd7a574246c4450dfe0bff265a1500fbd99f7e47f2ab3b66c0f8a25a3f9ece0),
  ("global:release_escrow", 0x92fd81e91491b5ce89f9d9c36ea7211a09dc35fb658ff8b8d9249ad225b15c4f),
  ("global:refund_escrow", 0x6bba59631ac217ccedc705c34e06e5fa56a616b67a750cb399eda2565079520d),
  ("global:create_vault", 0x1dedf7d0c15236873b551c830144c9100f7c77601df116c31f691a6f01e3c53a),
  ("global:deposit", 0xf223c68952e1f2b64f7fdf8db46763fed2f53987356e679488d82c0aa642809f),
  ("global:request_withdrawal", 0xfb5579cd38c90cb1709a324cc48c9f0934b679b6be2a928438330eec2cc251af)
]

def ironVaultProgram : Vector UInt8 32 :=
  bytes32 0x15e806a7a02ad38ed2fc55f1f724d09fea9f2e0255b13e668ba964743cb2ab2c

def tokenProgram : Vector UInt8 32 :=
  bytes32 0x06ddf6e1d765a193d9cbe146ceeb79ac1cb485ed5f5b37913a8cf5857eff00a9

def associatedTokenProgram : Vector UInt8 32 :=
  bytes32 0x8c97258f4e2489f1bb3d1029148e0d830b5a1399daff1084048e7bd8dbe9f859

def payer : Vector UInt8 32 := .replicate 32 5
def guardian : Vector UInt8 32 := .replicate 32 7
def recipient : Vector UInt8 32 := .replicate 32 9

-- The mint of wrapped SOL.
def mint : Vector UInt8 32 :=
  bytes32 0x069b8857feab8184fb687f634618c035dac439dc1aeb3b5598a0f00000000001

def escrow : Vector UInt8 32 :=
  bytes32 0x7c66c3963b7c3708203763da71d3dcd9f36ad2f16262e9fbc62265e7509e7d2f

def vault : Vector UInt8 32 :=
  bytes32 0x06bef3037ef0bb785e89f7983a48089d1ee202f332e3b3a07d964139e860b5e2

def addresses : List ((List (List UInt8) × Vector UInt8 32) × Vector UInt8 32) := [
  (([utf8 "protocol"], ironVaultProgram),
    bytes32 0xc0fff607f2875e7ac51a08df31f0221a7756d4ae58d53b688c8e4887c6e683c7),
  (([utf8 "escrow", payer.toList, [7, 0, 0, 0, 0, 0, 0, 0]], ironVaultProgram), escrow),
  (([utf8 "escrow_token", escrow.toList], ironVaultProgram),
    bytes32 0xdb4cc8b93ee1bc238acafe54cfca8a619e1bf84f46ca328344cc686540f3953c),
  (([utf8 "vault", payer.toList, [3, 0, 0, 0, 0, 0, 0, 0]], ironVaultProgram), vault),
  (([utf8 "vault_asset", vault.toList, mint.toList], ironVaultProgram),
    bytes32 0xa504c3ac4431fa49e48c06d52de0e3f67945fe82309f548b839a0442f65bbd85),
  (([utf8 "vault_token", vault.toList, mint.toList], ironVaultProgram),
    bytes32 0xe97e7ef1d3f1f9aaa47b96b5ea704074b33e79d82dd72d2cf11384a1d1614b2b),
  (([utf8 "withdrawal", vault.toList, [4, 0, 0, 0, 0, 0, 0, 0]], ironVaultProgram),
    bytes32 0xb645cdd86a772aff06923e6438b99fb7fd2a172d5cab7a4ff279ba1cf0b39395),
  (([payer.toList, tokenProgram.toList, mint.toList], associatedTokenProgram),
    bytes32 0xd0a0e4861cc5eae9c41fcf0d9be5adee06d29e7cab7448b36b45a5092e6c0954),
  (([recipient.toList, tokenProgram.toList, mint.toList], associatedTokenProgram),
    bytes32 0x70b59bb38ff224329aef6c3d8330105bca71e2f888835681c6702b0bfaf5a3f1)
]

scoped instance : Web3 (Vector UInt8 32) where
  sha256 text := bytes32 ((digests.lookup text).getD 0)
  findProgramAddressSync seeds programId := (addresses.lookup (seeds, programId)).getD (bytes32 0)
  ofBase58
    | "2UWmTuefm4gqbfuZP36NSJMMSKLM4Rbop25jf1uBZAu1" => some ironVaultProgram
    | "TokenkegQfeZyiNwAJbNbGKPFXCWuBvf9Ss623VQ5DA" => some tokenProgram
    | "ATokenGPvbdGVxr1b2hvZbsiqW5xWH25efTNsLJA8knL" => some associatedTokenProgram
    | _ => none
  toBase58 key :=
    if key = ironVaultProgram then "2UWmTuefm4gqbfuZP36NSJMMSKLM4Rbop25jf1uBZAu1"
    else if key = tokenProgram then "TokenkegQfeZyiNwAJbNbGKPFXCWuBvf9Ss623VQ5DA"
    else "ATokenGPvbdGVxr1b2hvZbsiqW5xWH25efTNsLJA8knL"
  systemProgramId := bytes32 0
  sysvarClockPubkey := bytes32 0x06a7d51718c774c928566398691d5eb68b5eb8a39b4b6d5c73555b2100000000
  tokenProgramAddress := tokenProgram
  token2022ProgramAddress :=
    bytes32 0x06ddf6e1ee758fde18425dbce46ccddab61afc4d83b90d27febdf928d8a18bfc
  associatedTokenProgramAddress := associatedTokenProgram

def client : IronVaultClient (Vector UInt8 32) := ⟨payer, ironVaultProgram⟩

def escrowAccount : Escrow (Vector UInt8 32) where
  maker := payer
  recipient := recipient
  mint := mint
  tokenProgram := tokenProgram
  escrowId := 7
  amount := 250
  createdAt := 1700000000
  expiresAt := 1800000000
  status := .funded
  bump := 254
  reserved := .replicate 30 0

def vaultAccount : Vault (Vector UInt8 32) where
  namespaceAuthority := payer
  authority := payer
  guardian := guardian
  vaultId := 3
  nextWithdrawalId := 4
  paused := false
  bump := 255
  reserved := .replicate 46 0

def connection : Connection (Vector UInt8 32) where
  getAccountInfo key :=
    if key = escrow then
      .ok (some ⟨ironVaultProgram,
        accountData (Web3.sha256 (Vector UInt8 32)) .escrow Escrow.space escrowAccount⟩)
    else if key = vault then
      .ok (some ⟨ironVaultProgram,
        accountData (Web3.sha256 (Vector UInt8 32)) .vault Vault.space vaultAccount⟩)
    else if key = mint then
      .ok (some ⟨tokenProgram, []⟩)
    else
      .ok none

theorem getAccountInfo_escrow :
    connection.getAccountInfo escrow = .ok (some ⟨client.programId,
      accountData (Web3.sha256 (Vector UInt8 32)) .escrow Escrow.space escrowAccount⟩) := by
  unfold connection
  dsimp only
  rw [if_pos rfl]
  rfl

theorem getAccountInfo_vault :
    connection.getAccountInfo vault = .ok (some ⟨client.programId,
      accountData (Web3.sha256 (Vector UInt8 32)) .vault Vault.space vaultAccount⟩) := by
  unfold connection
  dsimp only
  rw [if_neg (by decide +kernel), if_pos rfl]
  rfl

theorem discriminator_injective :
    Function.Injective (AccountType.discriminator (Web3.sha256 (Vector UInt8 32))) := by
  intro type type' h
  cases type <;> cases type' <;> first | rfl | (revert h; decide +kernel)

end Scenario

open Scenario in
theorem readers_agree_recorded :
    client.fetchEscrow connection escrow = .ok ⟨payer, recipient, mint, tokenProgram, 7⟩ ∧
    client.fetchVault connection vault = .ok ⟨payer, 4⟩ :=
  ⟨(readers_agree discriminator_injective client).fetchEscrow escrowAccount (Nat.le_refl _)
    getAccountInfo_escrow,
   (readers_agree discriminator_injective client).fetchVault vaultAccount (Nat.le_refl _)
    getAccountInfo_vault⟩

end IronVault.Client
