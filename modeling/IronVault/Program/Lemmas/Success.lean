import IronVault.Program.Lemmas.Custody

/-!
This module contains when the account constraints of a handler and a token transfer succeed in a
reachable state.
-/

namespace IronVault

variable {Pubkey : Type} [DecidableEq Pubkey] [Solana Pubkey]

open Solana

section Loads

variable {s : State Pubkey} (hs : Reachable s)

include hs

theorem Reachable.loadProtocolConfig_eq {key : Pubkey} {config : ProtocolConfig Pubkey}
    (h : s.protocolConfig key = some config) : s.loadProtocolConfig key = .ok config := by
  rw [State.loadProtocolConfig_eq_ok]
  exact ⟨h, (hs.protocolConfig h).create_eq⟩

theorem Reachable.loadEscrow_eq {key : Pubkey} {escrow : Escrow Pubkey}
    (h : s.escrow key = some escrow) : s.loadEscrow key = .ok escrow := by
  rw [State.loadEscrow_eq_ok]
  exact ⟨h, (hs.escrow h).canonical.create_eq⟩

theorem Reachable.loadVault_eq {key : Pubkey} {vault : Vault Pubkey}
    (h : s.vault key = some vault) : s.loadVault key = .ok vault := by
  rw [State.loadVault_eq_ok]
  exact ⟨h, (hs.vault h).canonical.create_eq⟩

theorem Reachable.loadVaultAsset_eq {key : Pubkey} {asset : VaultAsset Pubkey}
    (h : s.vaultAsset key = some asset) :
    s.loadVaultAsset key asset.vault asset.mint = .ok asset := by
  rw [State.loadVaultAsset_eq_ok]
  exact ⟨h, (hs.vaultAsset h).canonical.create_eq, rfl, rfl⟩

end Loads

theorem State.SupportedMint.loadMint_eq {s : State Pubkey} {mint tokenProgram : Pubkey}
    (h : s.SupportedMint mint tokenProgram) : ∃ m, s.loadMint mint tokenProgram = .ok m ∧
      s.mint mint = some m ∧ m.tokenProgram = tokenProgram ∧ isTokenProgram tokenProgram ∧
      mintExtensionsSupported m := by
  obtain ⟨m, hm, hprogram, heq, hsupported⟩ := h
  refine ⟨m, ?_, hm, heq, hprogram, hsupported⟩
  rw [State.loadMint_eq_ok]
  exact ⟨hm, by rw [heq]; exact hprogram, heq, hsupported⟩

theorem State.isTokenProgram_of_loadMint {s : State Pubkey} {mint tokenProgram : Pubkey}
    {m : Mint Pubkey} (h : s.loadMint mint tokenProgram = .ok m) : isTokenProgram tokenProgram := by
  obtain ⟨-, hprogram, heq, -⟩ := State.loadMint_eq_ok.mp h
  rw [← heq]
  exact hprogram

theorem State.transferChecked_succeeds {s : State Pubkey} {x : TransferChecked Pubkey}
    {amount : UInt64} {src dst : TokenAccount Pubkey} {m : Mint Pubkey}
    (hsrc : s.token x.source = some src) (hdst : s.token x.destination = some dst)
    (hmint : s.loadMint x.mint x.tokenProgram = .ok m)
    (hsrcProgram : src.tokenProgram = x.tokenProgram)
    (hdstProgram : dst.tokenProgram = x.tokenProgram)
    (hsrcMint : src.mint = x.mint) (hdstMint : dst.mint = x.mint) (howner : src.owner = x.authority)
    (hsends : src.Sends amount) (hreceives : dst.Receives)
    (hfunds : amount ≤ src.amount) (hroom : dst.amount.toNat + amount.toNat < 2 ^ 64)
    (hne : x.source ≠ x.destination) :
    ∃ token src', s.transferChecked x amount m.decimals = .ok { s with token } ∧
      token x.source = some src' ∧ src.amount.toNat = src'.amount.toNat + amount.toNat ∧
      token x.destination = some { dst with amount := dst.amount + amount } ∧
      (dst.amount + amount).toNat = dst.amount.toNat + amount.toNat := by
  obtain ⟨hm, -, hmProgram, hsupported⟩ := State.loadMint_eq_ok.mp hmint
  have hprogram := State.isTokenProgram_of_loadMint hmint
  have hpolicy : x.tokenProgram = tokenId ∨ x.tokenProgram = token2022Id ∧ m.extensionTypes = [] := by
    simp only [isTokenProgram, decide_eq_true_eq] at hprogram
    rcases hprogram with hprogram | hprogram
    . exact .inl hprogram
    . rcases hmProgram ▸ mintExtensionsSupported_iff.mp hsupported with hsupported | hsupported
      . exact .inl hsupported
      . exact .inr ⟨hprogram, hsupported⟩
  obtain ⟨token, htoken⟩ := Option.isSome_iff_exists.mp
    (Solana.transferChecked_succeeds hsrc hdst hm hsrcProgram hdstProgram hmProgram hpolicy hsrcMint
      hdstMint howner hsends hreceives hfunds hroom)
  obtain ⟨src', hdebit, -, -, heq⟩ := transferChecked_ok htoken hsrc hdst hm
    (mintExtensionsSupported_iff.mp hsupported) howner hne
  refine ⟨token, src', ?_, ?_, hdebit.amount, ?_, ?_⟩
  . rw [State.transferChecked_eq_ok]
    exact ⟨token, htoken, rfl⟩
  . rw [heq, Function.update_of_ne hne, Function.update_self]
  . rw [heq, Function.update_self]
  . rw [UInt64.toNat_add, Nat.mod_eq_of_lt hroom]

end IronVault
