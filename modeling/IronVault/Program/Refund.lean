import Mathlib.Algebra.Order.BigOperators.Group.List
import Mathlib.Algebra.Order.Group.Nat
import Mathlib.Data.List.Perm.Subperm
import IronVault.Program.EscrowLifecycle
import IronVault.Program.Lemmas.Success

/-!
This module contains that an expired escrow can be refunded, by anyone and whatever is paused, to
every account of the maker that takes transfers without a memo.
-/

namespace IronVault

variable {Pubkey : Type} [DecidableEq Pubkey] [Solana Pubkey]

/--
The supply of the mint fits in a `u64`: whichever of its accounts are taken together.
-/
def State.SupplyFits (s : State Pubkey) (mint : Pubkey) : Prop :=
  ∀ keys : List Pubkey, keys.Nodup → (∀ key ∈ keys, (s.token key).any (·.mint = mint)) →
    (keys.map s.balance).sum < 2 ^ 64

def RefundEscrow.canonical (caller key : Pubkey) (escrow : Escrow Pubkey) (destination : Pubkey) :
    RefundEscrow Pubkey where
  caller
  escrow := key
  mint := escrow.mint
  escrowToken := address (.escrowToken key)
  makerDestination := destination
  tokenProgram := escrow.tokenProgram

structure Refunded (s : State Pubkey) (key : Pubkey) (escrow : Escrow Pubkey)
    (destination : Pubkey) (s' : State Pubkey) : Prop where
  custody_balance : s.balance (address (.escrowToken key))
    = s'.balance (address (.escrowToken key)) + escrow.amount.toNat
  destination_balance : s'.balance destination = s.balance destination + escrow.amount.toNat
  token_eq {k : Pubkey} : k ≠ address (.escrowToken key) → k ≠ destination →
    s'.token k = s.token k
  post_eq : s' = { s with
    token := s'.token
    escrow := Function.update s.escrow key (some { escrow with status := .refunded }) }

section

variable {s : State Pubkey} {key destination : Pubkey} {escrow : Escrow Pubkey}

omit [Solana Pubkey] in
theorem State.SupplyFits.add_lt {mint k k' : Pubkey} (h : s.SupplyFits mint)
    {account account' : TokenAccount Pubkey} (hk : s.token k = some account)
    (hk' : s.token k' = some account') (hmint : account.mint = mint) (hmint' : account'.mint = mint)
    (hne : k ≠ k') : account.amount.toNat + account'.amount.toNat < 2 ^ 64 := by
  have hsum := h [k, k'] (by simpa using hne) (by simp [hk, hk', hmint, hmint'])
  simpa [State.balance, balanceOf, hk, hk'] using hsum

theorem Reachable.amount_le_custody (hs : Reachable s) (hescrow : s.escrow key = some escrow)
    (hfunded : escrow.status = .funded) :
    escrow.amount.toNat ≤ s.balance (address (.escrowToken key)) := by
  obtain ⟨tr, h⟩ := hs
  rw [h.solvent key]
  simp only [State.owed, hescrow, hfunded, if_true]
  omega

theorem RefundEscrow.refund_succeeds (ctx : RefundEscrow Pubkey) {now : Int64} {mint : Mint Pubkey}
    {custody account : TokenAccount Pubkey} (hescrow : s.loadEscrow ctx.escrow = .ok escrow)
    (hescrowMint : escrow.mint = ctx.mint) (hescrowProgram : escrow.tokenProgram = ctx.tokenProgram)
    (hmint : s.loadMint ctx.mint ctx.tokenProgram = .ok mint)
    (hcustody : s.loadCustody ctx.escrowToken (.escrowToken ctx.escrow) ctx.escrow escrow.mint
      ctx.tokenProgram .invalidCustodyBalance .invalidSourceMint = .ok custody)
    (hdestination : s.loadOwnedToken ctx.makerDestination escrow.maker escrow.mint ctx.tokenProgram
      .invalidMakerDestinationOwner .invalidMakerDestinationMint = .ok account)
    (hfunded : escrow.status = .funded) (hexpired : escrow.expiresAt ≤ now)
    (hsends : custody.Sends escrow.amount) (hreceives : account.Receives)
    (hfunds : escrow.amount ≤ custody.amount)
    (hroom : account.amount.toNat + escrow.amount.toNat < 2 ^ 64)
    (hne : ctx.escrowToken ≠ ctx.makerDestination) :
    ∃ s' event, ctx.refund s now = .ok (s', event) := by
  obtain ⟨-, hsrc, -, hsrcMint, hsrcProgram, howner⟩ := State.loadCustody_eq_ok.mp hcustody
  obtain ⟨hdst, -, hdstMint, hdstProgram, -⟩ := State.loadOwnedToken_eq_ok.mp hdestination
  obtain ⟨token, src', htransfer, hsrc', hafter, hdst', hsum⟩ := State.transferChecked_succeeds
    (x := ⟨ctx.tokenProgram, ctx.escrowToken, ctx.mint, ctx.makerDestination, ctx.escrow⟩)
    hsrc hdst hmint hsrcProgram hdstProgram (hsrcMint.trans hescrowMint)
    (hdstMint.trans hescrowMint) howner hsends hreceives hfunds hroom hne
  simp only [refund, Except.bind_eq_ok_iff, checkTokenProgram_eq_ok, hescrow, hmint, hcustody,
    hdestination, require_eq_ok, Except.ok.injEq, exists_eq_left', exists_const, fetch_eq_ok,
    UInt64.checkedAdd_eq_some, UInt64.checkedSub_eq_some, State.requireBalance_eq_ok,
    Except.pure_eq_ok_iff, Prod.mk.injEq]
  exact ⟨_, _, State.isTokenProgram_of_loadMint hmint, hescrowMint, hescrowProgram, hfunded,
    hexpired, hfunds, _, htransfer, src'.amount, hafter, ⟨src', hsrc', rfl⟩, _, hsum, ⟨_, hdst', rfl⟩,
    rfl, rfl⟩

theorem RefundEscrow.Accepted.refunded {caller : Pubkey} {now : Int64} {s' : State Pubkey}
    {event : IronVaultEvent Pubkey} {old : Escrow Pubkey} (hs : Reachable s)
    (hescrow : s.escrow key = some escrow)
    (h : (RefundEscrow.canonical caller key escrow destination).Accepted s now s' event old) :
    Refunded s key escrow destination s' := by
  have hold : old = escrow := by
    have hlookup := h.settled.escrow_eq
    rw [RefundEscrow.canonical, hescrow, Option.some.injEq] at hlookup
    exact hlookup.symm
  subst hold
  have hmoves : Moves s.token (address (.escrowToken key)) destination old.amount s'.token :=
    h.settled.moves (hs.escrow hescrow).amount_pos
  have hcustody := hmoves.balanceOf_add (address (.escrowToken key))
  have hdestination := hmoves.balanceOf_add destination
  rw [if_pos rfl, if_neg hmoves.ne] at hcustody
  rw [if_neg hmoves.ne.symm, if_pos rfl] at hdestination
  refine ⟨hcustody.symm, hdestination, ?_, h.settled.post_eq⟩
  intro k hk hk'
  obtain ⟨-, _, _, _, -, -, -, -, -, heq⟩ := hmoves
  rw [heq, Function.update_of_ne hk', Function.update_of_ne hk]

end

theorem expired_escrow_refundable {s : State Pubkey} {key destination : Pubkey}
    {escrow : Escrow Pubkey} {account : TokenAccount Pubkey} {now : Int64} (hs : Reachable s)
    (hescrow : s.escrow key = some escrow) (hfunded : escrow.status = .funded)
    (hexpired : escrow.expiresAt ≤ now) (haccount : s.token destination = some account)
    (hmint : account.mint = escrow.mint) (hprogram : account.tokenProgram = escrow.tokenProgram)
    (howner : account.owner = escrow.maker) (hne : destination ≠ address (.escrowToken key))
    (hpayable : s.Payable (address (.escrowToken key)) destination)
    (hsupply : s.SupplyFits escrow.mint) (caller : Pubkey) :
    ∃ s' event,
      process s now (.refundEscrow (.canonical caller key escrow destination)) = .ok (s', event) ∧
        Refunded s key escrow destination s' := by
  have hcustody := hs.custody_of_escrow hescrow
  obtain ⟨balance, frozen, hbalance⟩ := hcustody.account_eq
  obtain ⟨hsends, hreceives⟩ := (hcustody.payable_iff hbalance haccount escrow.amount).mp hpayable
  obtain ⟨mint, hloadMint, -, -, htokenProgram, -⟩ := hcustody.mint_supported.loadMint_eq
  have hfunds := hs.amount_le_custody hescrow hfunded
  simp only [State.balance, balanceOf, hbalance] at hfunds
  have hroom : account.amount.toNat + escrow.amount.toNat < 2 ^ 64 := by
    have hadd : account.amount.toNat + balance.toNat < 2 ^ 64 :=
      hsupply.add_lt haccount hbalance hmint rfl hne
    have hfunds' : escrow.amount.toNat ≤ balance.toNat := hfunds
    omega
  have hloadCustody : s.loadCustody (address (.escrowToken key)) (.escrowToken key) key escrow.mint
      escrow.tokenProgram .invalidCustodyBalance .invalidSourceMint = .ok _ :=
    State.loadCustody_eq_ok.mpr ⟨rfl, hbalance, htokenProgram, rfl, rfl, rfl⟩
  have hloadDestination : s.loadOwnedToken destination escrow.maker escrow.mint escrow.tokenProgram
      .invalidMakerDestinationOwner .invalidMakerDestinationMint = .ok account :=
    State.loadOwnedToken_eq_ok.mpr
      ⟨haccount, by rw [hprogram]; exact htokenProgram, hmint, hprogram, howner⟩
  obtain ⟨s', event, hrefund⟩ := RefundEscrow.refund_succeeds
    (RefundEscrow.canonical caller key escrow destination) (hs.loadEscrow_eq hescrow) rfl rfl
    hloadMint hloadCustody hloadDestination hfunded hexpired hsends hreceives
    (UInt64.le_iff_toNat_le.mpr hfunds) hroom (Ne.symm hne)
  obtain ⟨old, haccepted⟩ := RefundEscrow.refund_ok hrefund
  exact ⟨s', some event, process.emit_eq_ok.mpr ⟨event, rfl, hrefund⟩,
    haccepted.refunded hs hescrow⟩

omit [Solana Pubkey] in
theorem State.SupplyFits.of_support {s : State Pubkey} {support : List Pubkey}
    (hsupport : ∀ key, s.token key ≠ none → key ∈ support)
    (hsum : (support.map s.balance).sum < 2 ^ 64) (mint : Pubkey) : s.SupplyFits mint := by
  intro keys hnodup hkeys
  have hsubset : keys ⊆ support := by
    intro key hkey
    apply hsupport
    intro hnone
    simpa [hnone] using hkeys key hkey
  obtain ⟨sub, hperm, hsublist⟩ := List.subperm_of_subset hnodup hsubset
  rw [← (hperm.map s.balance).sum_eq]
  apply Nat.lt_of_le_of_lt _ hsum
  exact (hsublist.map s.balance).sum_le_sum fun _ _ => Nat.zero_le _

theorem State.opened_of_final {s : State Key} {ixs : List (Instruction Key × Int64)}
    (hs : Reachable s) (h : s.accepts ixs = true) {key : Key} (hnone : s.token key = none)
    (hsome : (s.final ixs).token key ≠ none) :
    ∃ x ∈ ixs, ∃ account, x.1.opened = some (key, account) := by
  induction ixs generalizing s with
  | nil => exact absurd hnone hsome
  | cons head ixs ih =>
    obtain ⟨hstep, hrest⟩ := State.step_apply h
    by_cases hnext : (s.apply head.1 head.2).token key = none
    . obtain ⟨x, hx, hopened⟩ := ih (hs.step hstep) hrest hnext hsome
      exact ⟨x, List.mem_cons_of_mem _ hx, hopened⟩
    . exact ⟨head, List.mem_cons_self, (hstep.ledger hs).opened_of_token hnone hnext⟩

theorem State.support_final {token : Nat → Option (TokenAccount Key)}
    {mint : Nat → Option (Mint Key)} {ixs : List (Instruction Key × Int64)}
    (h : (State.funded token mint).accepts ixs = true) {key : Key}
    (hsome : ((State.funded token mint).final ixs).token key ≠ none) :
    (∃ n, key = .wallet n ∧ token n ≠ none) ∨
      ∃ x ∈ ixs, ∃ account, x.1.opened = some (key, account) := by
  have hfunded : Reachable (State.funded token mint) := ⟨_, @History.replay token mint [] rfl⟩
  by_cases hnone : (State.funded token mint).token key = none
  . exact .inr (State.opened_of_final hfunded h hnone hsome)
  . cases key with
    | wallet n => exact .inl ⟨n, rfl, hnone⟩
    | _ => exact absurd rfl hnone

namespace Scenario

def escrowed : List (Instruction Key × Int64) :=
  released.take 2

def escrowedAt : Escrow Key where
  maker := authority
  recipient
  mint
  tokenProgram
  escrowId := 7
  amount := 40
  createdAt := 1
  expiresAt := 100
  status := .funded
  bump := 255
  reserved := .replicate 30 0

theorem accepts_escrowed : start.accepts escrowed = true := by
  decide +kernel

theorem supplyFits_escrowed : (start.final escrowed).SupplyFits mint := by
  have hsupport : ∀ key, (start.final escrowed).token key ≠ none →
      key ∈ [authorityToken, recipientToken, .escrowToken (.escrow authority 7)] := by
    intro key hsome
    rcases State.support_final accepts_escrowed hsome with ⟨n, rfl, hn⟩ | ⟨x, hx, account, hopened⟩
    . unfold token at hn
      split at hn
      . decide
      . decide
      . exact absurd rfl hn
    . simp only [escrowed, released, List.take_succ_cons, List.take_zero, List.mem_cons,
        List.not_mem_nil, or_false] at hx
      rcases hx with rfl | rfl
      . simp [Instruction.opened] at hopened
      . simp only [Instruction.opened, Option.some.injEq, Prod.mk.injEq] at hopened
        simp [hopened.1]
  exact .of_support hsupport (by decide +kernel) mint

end Scenario

open Scenario in
theorem expired_escrow_refundable_escrowed :
    ∃ s' event,
      process (start.final escrowed) 100 (.refundEscrow (.canonical recipient (.escrow authority 7)
        escrowedAt authorityToken)) = .ok (s', event) ∧
      Refunded (start.final escrowed) (.escrow authority 7) escrowedAt authorityToken s' := by
  have hescrow : (start.final escrowed).escrow (.escrow authority 7) = some escrowedAt := by
    decide +kernel
  have haccount : (start.final escrowed).token authorityToken
      = some (.custody tokenProgram mint authority 960 false) := by
    decide +kernel
  exact expired_escrow_refundable ⟨_, history_trace escrowed accepts_escrowed⟩ hescrow rfl
    (by decide) haccount rfl rfl rfl (by decide) (by decide +kernel) supplyFits_escrowed recipient

namespace Scenario

def token2022 : Key := .wallet 2
def mint2022 : Key := .wallet 41
def makerToken : Key := .wallet 42
def memoToken : Key := .wallet 43

/--
A mint of Token-2022 without extensions, and two accounts of the maker: the second one requires a memo
on incoming transfers.
-/
def memoTokens : Nat → Option (TokenAccount Key)
  | 42 => some { TokenAccount.initializeAccount token2022 mint2022 authority with amount := 1000 }
  | 43 => some { TokenAccount.initializeAccount token2022 mint2022 authority with memoRequired := true }
  | _ => none

def memoMints : Nat → Option (Mint Key)
  | 41 => some { tokenProgram := token2022, decimals := 6, extensionTypes := [] }
  | _ => none

def memoEscrowed : List (Instruction Key × Int64) := [
  (.initializeProtocol ⟨admin, .protocol⟩ admin protocolGuardian, 0),
  (.createEscrow ⟨authority, .protocol, mint2022, makerToken, .escrow authority 7,
    .escrowToken (.escrow authority 7), token2022⟩ 7 recipient 40 100, 1)
]

def memoState : State Key :=
  (State.funded memoTokens memoMints).final memoEscrowed

theorem accepts_memoEscrowed : (State.funded memoTokens memoMints).accepts memoEscrowed = true := by
  decide +kernel

theorem support_memoState {key : Key} (hsome : memoState.token key ≠ none) :
    key ∈ [makerToken, memoToken, .escrowToken (.escrow authority 7)] := by
  rcases State.support_final accepts_memoEscrowed hsome with ⟨n, rfl, hn⟩ | ⟨x, hx, account, hopened⟩
  . unfold memoTokens at hn
    split at hn
    . decide
    . decide
    . exact absurd rfl hn
  . simp only [memoEscrowed, List.mem_cons, List.not_mem_nil, or_false] at hx
    rcases hx with rfl | rfl
    . simp [Instruction.opened] at hopened
    . simp only [Instruction.opened, Option.some.injEq, Prod.mk.injEq] at hopened
      simp [hopened.1]

theorem not_frozen_memoState (key : Key) : memoState.frozen key = false := by
  cases htoken : memoState.token key with
  | none => simp [State.frozen, htoken]
  | some account =>
    have hmem := @support_memoState key (by simp [htoken])
    have hall : ∀ key ∈ [makerToken, memoToken, .escrowToken (.escrow authority 7)],
        memoState.frozen key = false := by
      decide +kernel
    exact hall key hmem

end Scenario

open Scenario in
/--
The refund to an account of the maker that requires a memo fails, although nothing is frozen.
-/
theorem expired_escrow_not_refundable :
    ¬ ∀ (s : State Key) (key destination : Key) (escrow : Escrow Key) (account : TokenAccount Key)
      (now : Int64), Reachable s → s.escrow key = some escrow → escrow.status = .funded →
      escrow.expiresAt ≤ now → s.token destination = some account → account.mint = escrow.mint →
      account.tokenProgram = escrow.tokenProgram → account.owner = escrow.maker →
      destination ≠ address (.escrowToken key) → (∀ k, s.frozen k = false) →
      s.SupplyFits escrow.mint → ∀ caller, ∃ s' event,
        process s now (.refundEscrow (.canonical caller key escrow destination)) = .ok (s', event) ∧
          Refunded s key escrow destination s' := by
  intro h
  let escrow : Escrow Key := { escrowedAt with mint := mint2022, tokenProgram := token2022 }
  have hescrow : memoState.escrow (.escrow authority 7) = some escrow := by decide +kernel
  have haccount : memoState.token memoToken = some
      { TokenAccount.initializeAccount token2022 mint2022 authority with memoRequired := true } := by
    decide +kernel
  have hsupply : memoState.SupplyFits mint2022 :=
    .of_support (fun _ => support_memoState) (by decide +kernel) mint2022
  obtain ⟨s', event, hok, -⟩ := h memoState (.escrow authority 7) memoToken escrow _ 100
    ⟨_, History.replay accepts_memoEscrowed⟩ hescrow rfl (by decide) haccount rfl rfl rfl (by decide)
    not_frozen_memoState hsupply recipient
  have hfails : (process memoState 100 (.refundEscrow
      (.canonical recipient (.escrow authority 7) escrow memoToken))).isOk = false := by
    decide +kernel
  rw [hok] at hfails
  cases hfails

end IronVault
