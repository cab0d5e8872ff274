import IronVault.Program.Impl.Locks
import IronVault.Program.Lemmas.Ledger

/-!
This module contains that an instruction changes no account but those it declares as mutable.
-/

namespace IronVault

variable {Pubkey : Type} [DecidableEq Pubkey] [Solana Pubkey]

/--
Everything that is stored at one address.
-/
@[ext]
structure Account (Pubkey : Type) where
  protocolConfig : Option (ProtocolConfig Pubkey)
  escrow : Option (Escrow Pubkey)
  vault : Option (Vault Pubkey)
  vaultAsset : Option (VaultAsset Pubkey)
  roleAssignment : Option (RoleAssignment Pubkey)
  withdrawalRequest : Option (WithdrawalRequest Pubkey)
  token : Option (TokenAccount Pubkey)
  mint : Option (Mint Pubkey)

def State.account (s : State Pubkey) (key : Pubkey) : Account Pubkey where
  protocolConfig := s.protocolConfig key
  escrow := s.escrow key
  vault := s.vault key
  vaultAsset := s.vaultAsset key
  roleAssignment := s.roleAssignment key
  withdrawalRequest := s.withdrawalRequest key
  token := s.token key
  mint := s.mint key

omit [DecidableEq Pubkey] [Solana Pubkey] in
theorem State.eq_of_account {s t : State Pubkey} (h : ∀ key, s.account key = t.account key) :
    s = t := by
  obtain ⟨⟩ := s
  obtain ⟨⟩ := t
  simp only [State.account, Account.mk.injEq] at h
  simp only [State.mk.injEq]
  refine ⟨?_, ?_, ?_, ?_, ?_, ?_, ?_, ?_⟩
  all_goals
    funext key
    simp [h key]

section Writable

variable {s : State Pubkey} {ix : Instruction Pubkey}

omit [DecidableEq Pubkey] [Solana Pubkey] in
theorem Instruction.writable_subset : ix.writable ⊆ ix.accounts := by
  intro key hkey
  cases ix <;> simp only [writable, accounts, List.mem_cons, List.mem_append, List.not_mem_nil,
    or_false] at hkey ⊢ <;> grind

omit [DecidableEq Pubkey] [Solana Pubkey] in
theorem Instruction.transfer_mem_writable {x : Transfer Pubkey} (h : ix.transfer s = some x) :
    x.source ∈ ix.writable ∧ x.destination ∈ ix.writable := by
  cases ix <;> simp only [transfer, Option.some.injEq, Option.map_eq_some_iff, reduceCtorEq] at h
  case createEscrow | deposit | withdraw =>
    subst h
    simp [writable]
  all_goals
    obtain ⟨_, -, rfl⟩ := h
    simp [writable]

omit [DecidableEq Pubkey] [Solana Pubkey] in
theorem Instruction.opened_mem_writable {key : Pubkey} {account : TokenAccount Pubkey}
    (h : ix.opened = some (key, account)) : key ∈ ix.writable := by
  cases ix <;> simp only [opened, Option.some.injEq, Prod.mk.injEq, reduceCtorEq] at h
  all_goals simp [writable, h.1]

end Writable

section Frame

variable {s s' : State Pubkey} {ix : Instruction Pubkey} {now : Int64} {key : Pubkey}

omit [Solana Pubkey] in
theorem openAccount_of_ne {token : Pubkey → Option (TokenAccount Pubkey)}
    {opened : Option (Pubkey × TokenAccount Pubkey)}
    (h : ∀ k account, opened = some (k, account) → key ≠ k) :
    openAccount token opened key = token key := by
  cases opened with
  | none => rfl
  | some opened =>
    obtain ⟨k, account⟩ := opened
    exact Function.update_of_ne (h k account rfl) ..

omit [Solana Pubkey] in
theorem LedgerStep.token_frame (h : LedgerStep s ix s') (hkey : key ∉ ix.writable) :
    s'.token key = s.token key := by
  have hopened : openAccount s.token ix.opened key = s.token key := by
    apply openAccount_of_ne
    rintro k account hopened rfl
    exact hkey (Instruction.opened_mem_writable hopened)
  cases htransfer : ix.transfer s with
  | none => rw [h.unmoved htransfer, hopened]
  | some x =>
    obtain ⟨hsource, hdestination⟩ := Instruction.transfer_mem_writable htransfer
    obtain ⟨-, src, src', dst, -, -, -, -, -, heq⟩ := h.moved htransfer
    rw [heq, Function.update_of_ne, Function.update_of_ne, hopened]
    . rintro rfl
      exact hkey hsource
    . rintro rfl
      exact hkey hdestination

namespace Step

variable (h : Step s (.instruction ix now) s') (hkey : key ∉ ix.writable)

include h hkey

theorem protocolConfig_frame : s'.protocolConfig key = s.protocolConfig key := by
  cases h.configChange with
  | same h => rw [h]
  | _ h =>
    simp only [Instruction.writable, List.mem_cons, not_or] at hkey
    rw [h.post_eq]
    apply Function.update_of_ne
    simp [hkey]

theorem escrow_frame : s'.escrow key = s.escrow key := by
  cases h.escrowChange with
  | same h => rw [h]
  | create h =>
    simp only [Instruction.writable, List.mem_cons, not_or] at hkey
    rw [h.post_eq]
    apply Function.update_of_ne
    simp [hkey]
  | _ h =>
    simp only [Instruction.writable, List.mem_cons, not_or] at hkey
    rw [h.settled.post_eq]
    apply Function.update_of_ne
    simp [hkey]

theorem vault_frame : s'.vault key = s.vault key := by
  cases h.vaultChange with
  | same h => rw [h]
  | create h =>
    simp only [Instruction.writable, List.mem_cons, not_or] at hkey
    rw [h.post_eq]
    apply Function.update_of_ne
    simp [hkey]
  | _ h =>
    simp only [Instruction.writable, List.mem_cons, not_or] at hkey
    rw [h.post_eq]
    apply Function.update_of_ne
    simp [hkey]

theorem vaultAsset_frame : s'.vaultAsset key = s.vaultAsset key := by
  cases h.assetChange with
  | same h => rw [h]
  | withdraw h =>
    simp only [Instruction.writable, List.mem_cons, not_or] at hkey
    rw [h.outflow.asset_post]
    apply Function.update_of_ne
    simp [hkey]
  | execute h =>
    simp only [Instruction.writable, List.mem_cons, not_or] at hkey
    rw [h.outflow.asset_post]
    apply Function.update_of_ne
    simp [hkey]
  | _ h =>
    simp only [Instruction.writable, List.mem_cons, not_or] at hkey
    rw [h.post_eq]
    apply Function.update_of_ne
    simp [hkey]

theorem roleAssignment_frame : s'.roleAssignment key = s.roleAssignment key := by
  cases h.roleChange with
  | same h => rw [h]
  | _ h =>
    simp only [Instruction.writable, List.mem_cons, not_or] at hkey
    rw [h.post_eq]
    apply Function.update_of_ne
    simp [hkey]

theorem withdrawalRequest_frame : s'.withdrawalRequest key = s.withdrawalRequest key := by
  cases h.requestChange with
  | same h => rw [h]
  | _ h =>
    simp only [Instruction.writable, List.mem_cons, not_or] at hkey
    rw [h.post_eq]
    apply Function.update_of_ne
    simp [hkey]

end Step

theorem Step.account_frame (hs : Reachable s) (h : Step s (.instruction ix now) s')
    (hkey : key ∉ ix.writable) : s'.account key = s.account key := by
  have hledger := h.ledger hs
  ext1
  . exact h.protocolConfig_frame hkey
  . exact h.escrow_frame hkey
  . exact h.vault_frame hkey
  . exact h.vaultAsset_frame hkey
  . exact h.roleAssignment_frame hkey
  . exact h.withdrawalRequest_frame hkey
  . exact hledger.token_frame hkey
  . exact congrFun hledger.mint_eq key

end Frame

end IronVault
