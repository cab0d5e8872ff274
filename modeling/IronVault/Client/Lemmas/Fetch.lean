import IronVault.Client.Impl.Client
import IronVault.Client.Lemmas.Encoding

/-!
This module contains when the client accepts an account of the program, and what it then reads from
the account's data.
-/

namespace IronVault.Client.IronVaultClient

variable {PublicKey : Type} [DecidableEq PublicKey] [Web3 PublicKey]
variable {client : IronVaultClient PublicKey} {connection : Connection PublicKey}
variable {address : PublicKey} {account : AccountInfo PublicKey} {type : String}
variable {minimumLength : Nat} {data : List UInt8}

theorem fetchProgramAccount_eq_ok :
    client.fetchProgramAccount connection address type minimumLength = .ok data ↔
      connection.getAccountInfo address = .ok (some ⟨client.programId, data⟩) ∧
      minimumLength ≤ data.length ∧
      subarray data 0 8 = anchorDiscriminator PublicKey "account" type := by
  unfold fetchProgramAccount
  rw [Except.bind_eq_ok_iff]
  constructor
  . rintro ⟨fetched, hfetched, h⟩
    split at h
    . simp at h
    . next account =>
      split at h
      . simp at h
      . next howner =>
        split at h
        . simp at h
        . next hvalid =>
          rw [Except.pure_eq_ok_iff] at h
          subst h
          rw [not_or, not_lt, not_not] at hvalid
          rw [not_not] at howner
          rw [hfetched, ← howner]
          exact ⟨rfl, hvalid⟩
  . rintro ⟨hfetched, hlength, hdiscriminator⟩
    refine ⟨_, hfetched, ?_⟩
    simp [hdiscriminator, Nat.not_lt.mpr hlength, pure, Except.pure]

theorem fetchProgramAccount_rejects
    (hfetched : connection.getAccountInfo address = .ok (some account))
    (h : account.owner ≠ client.programId ∨ account.data.length < minimumLength ∨
      subarray account.data 0 8 ≠ anchorDiscriminator PublicKey "account" type) :
    ∃ message, client.fetchProgramAccount connection address type minimumLength =
      .error (.error message) := by
  unfold fetchProgramAccount
  rw [hfetched]
  by_cases howner : account.owner = client.programId
  . refine ⟨type ++ " account data is invalid", ?_⟩
    simp only [howner, ne_eq, not_true_eq_false, false_or] at h
    simp [bind, Except.bind, howner, h]
  . refine ⟨type ++ " account has the wrong owner", ?_⟩
    simp [bind, Except.bind, howner]

theorem resolveTokenProgram_supported {mint tokenProgram : PublicKey}
    (h : resolveTokenProgram connection mint = .ok tokenProgram) :
    tokenProgram = Web3.tokenProgramAddress ∨ tokenProgram = Web3.token2022ProgramAddress := by
  unfold resolveTokenProgram at h
  rw [Except.bind_eq_ok_iff] at h
  obtain ⟨fetched, -, h⟩ := h
  split at h
  . cases h
  . split at h
    . cases h
    . next howner =>
      rw [Except.pure_eq_ok_iff] at h
      subst h
      rw [not_and_or, not_not, not_not] at howner
      exact howner

variable [Borsh PublicKey]

theorem fetchEscrow_eq_ok {state : EscrowState PublicKey} :
    client.fetchEscrow connection address = .ok state ↔
      ∃ data, client.fetchProgramAccount connection address "Escrow" 170 = .ok data ∧
        ofBuffer (subarray data 8 40) = .ok state.maker ∧
        ofBuffer (subarray data 40 72) = .ok state.recipient ∧
        ofBuffer (subarray data 72 104) = .ok state.mint ∧
        ofBuffer (subarray data 104 136) = .ok state.tokenProgram ∧
        readBigUInt64LE data 136 = .ok state.escrowId := by
  unfold fetchEscrow
  simp only [Except.bind_eq_ok_iff, Except.pure_eq_ok_iff]
  constructor
  . rintro ⟨data, hdata, maker, hmaker, recipient, hrecipient, mint, hmint, program, hprogram, id,
      hid, rfl⟩
    exact ⟨data, hdata, hmaker, hrecipient, hmint, hprogram, hid⟩
  . rintro ⟨data, hdata, hmaker, hrecipient, hmint, hprogram, hid⟩
    exact ⟨data, hdata, _, hmaker, _, hrecipient, _, hmint, _, hprogram, _, hid, rfl⟩

theorem fetchVault_eq_ok {state : VaultState PublicKey} :
    client.fetchVault connection address = .ok state ↔
      ∃ data, client.fetchProgramAccount connection address "Vault" 120 = .ok data ∧
        ofBuffer (subarray data 40 72) = .ok state.authority ∧
        readBigUInt64LE data 112 = .ok state.nextWithdrawalId := by
  unfold fetchVault
  simp only [Except.bind_eq_ok_iff, Except.pure_eq_ok_iff]
  constructor
  . rintro ⟨data, hdata, authority, hauthority, id, hid, rfl⟩
    exact ⟨data, hdata, hauthority, hid⟩
  . rintro ⟨data, hdata, hauthority, hid⟩
    exact ⟨data, hdata, _, hauthority, _, hid, rfl⟩

end IronVault.Client.IronVaultClient
