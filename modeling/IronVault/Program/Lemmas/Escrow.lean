import IronVault.Program.Impl.Escrow
import IronVault.Program.Lemmas.Accounts

namespace IronVault

variable {Pubkey : Type} [DecidableEq Pubkey] [Solana Pubkey]

open Solana

structure CreateEscrow.Accepted (ctx : CreateEscrow Pubkey) (s : State Pubkey) (escrowId : UInt64)
    (recipient : Pubkey) (amount : UInt64) (expiresAt now : Int64) (s' : State Pubkey)
    (event : IronVaultEvent Pubkey) : Prop where
  active : s.Active ctx.protocolConfig pauseEscrowCreate
  mint_supported : s.SupportedMint ctx.mint ctx.tokenProgram
  makerToken_owner : ∃ account, s.token ctx.makerToken = some account ∧ account.owner = ctx.maker
  key_eq : ctx.escrow = address (.escrow ctx.maker escrowId)
  tokenKey_eq : ctx.escrowToken = address (.escrowToken ctx.escrow)
  fresh : s.unallocated ctx.escrow
  token_fresh : s.unallocated ctx.escrowToken
  amount_pos : 0 < amount
  recipient_ne : recipient ≠ defaultKey ∧ recipient ≠ ctx.maker
  now_lt : now < expiresAt
  moves : Moves
    (Function.update s.token ctx.escrowToken
      (some (.initializeAccount ctx.tokenProgram ctx.mint ctx.escrow)))
    ctx.makerToken ctx.escrowToken amount s'.token
  post_eq : s' = { s with
    token := s'.token
    escrow := Function.update s.escrow ctx.escrow (some {
      maker := ctx.maker
      recipient
      mint := ctx.mint
      tokenProgram := ctx.tokenProgram
      escrowId
      amount
      createdAt := now
      expiresAt
      status := .funded
      bump := (findProgramAddress (.escrow ctx.maker escrowId)).2
      reserved := .replicate 30 0 }) }
  event_eq : event = .escrowCreated {
    version := initialSchemaVersion
    escrow := ctx.escrow
    escrowToken := ctx.escrowToken
    maker := ctx.maker
    recipient
    mint := ctx.mint
    amount
    createdAt := now
    expiresAt
    escrowId }

theorem CreateEscrow.create_ok {ctx : CreateEscrow Pubkey} {s s' : State Pubkey} {escrowId : UInt64}
    {recipient : Pubkey} {amount : UInt64} {expiresAt now : Int64} {event : IronVaultEvent Pubkey}
    (h : ctx.create s escrowId recipient amount expiresAt now = .ok (s', event)) :
    ctx.Accepted s escrowId recipient amount expiresAt now s' event := by
  simp only [create, Except.bind_eq_ok_iff, checkTokenProgram_eq_ok, State.loadProtocolConfig_eq_ok,
    State.loadMint_eq_ok, State.loadOwnedToken_eq_ok, State.init_eq_ok, requireProtocolActive_eq_ok,
    State.requireBalance_eq_ok, require_eq_ok, fetch_eq_ok, UInt64.checkedSub_eq_some, Except.pure_eq_ok_iff,
    Prod.mk.injEq, exists_const] at h
  obtain ⟨-, config, ⟨hconfig, -⟩, mint, ⟨hmint, hprog, hmintProg, hsupp⟩, makerToken,
    ⟨hmaker, -, -, -, howner⟩, bump, ⟨hkey, hfresh, rfl⟩, -, ⟨htokenKey, htokenFresh, -⟩, h⟩ := h
  obtain ⟨hactive, hpos, hrecipient, hexpires, -, -, s₁, htransfer, after, hafter, hsource, -, rfl,
    rfl⟩ := h
  have hne : ctx.makerToken ≠ ctx.escrowToken := by
    -- the custody account did not exist before, the source did
    intro heq
    rw [heq] at hmaker
    simp [(State.vacant_of_unallocated htokenFresh).token] at hmaker
  have hmoves := Moves.of_transferChecked htransfer hmint hsupp
    (by simpa [Function.update_of_ne hne] using hmaker) (Function.update_self ..) howner hpos hafter hsource
  rw [State.transferChecked_eq_ok] at htransfer
  obtain ⟨token, -, rfl⟩ := htransfer
  exact ⟨⟨config, hconfig, hactive⟩, ⟨mint, hmint, hmintProg ▸ hprog, hmintProg, hsupp⟩,
    ⟨makerToken, hmaker, howner⟩, hkey, htokenKey, hfresh, htokenFresh, hpos, hrecipient, hexpires,
    hmoves, rfl, rfl⟩

/--
What an accepted `release_escrow` and an accepted `refund_escrow` have in common: `status` is
written, and the amount leaves custody for an account of `beneficiary`.
-/
structure Escrow.Settled (escrow : Escrow Pubkey) (s : State Pubkey)
    (key custody destination beneficiary : Pubkey) (status : EscrowStatus) (s' : State Pubkey) :
    Prop where
  escrow_eq : s.escrow key = some escrow
  mint_supported : s.SupportedMint escrow.mint escrow.tokenProgram
  custody_eq : custody = address (.escrowToken key)
  destination_owner : ∃ account, s.token destination = some account ∧ account.owner = beneficiary
  status_eq : escrow.status = .funded
  moves : 0 < escrow.amount → Moves s.token custody destination escrow.amount s'.token
  post_eq : s' = { s with
    token := s'.token
    escrow := Function.update s.escrow key (some { escrow with status }) }

structure ReleaseEscrow.Accepted (ctx : ReleaseEscrow Pubkey) (s : State Pubkey) (now : Int64)
    (s' : State Pubkey) (event : IronVaultEvent Pubkey) (escrow : Escrow Pubkey) : Prop where
  active : s.Active ctx.protocolConfig pauseEscrowRelease
  maker_eq : escrow.maker = ctx.maker
  mint_eq : escrow.mint = ctx.mint
  now_lt : now < escrow.expiresAt
  settled : escrow.Settled s ctx.escrow ctx.escrowToken ctx.recipientToken escrow.recipient
    .released s'
  event_eq : event = .escrowReleased {
    version := initialSchemaVersion
    escrow := ctx.escrow
    escrowToken := ctx.escrowToken
    maker := escrow.maker
    recipient := escrow.recipient
    recipientToken := ctx.recipientToken
    mint := escrow.mint
    amount := escrow.amount }

theorem ReleaseEscrow.release_ok {ctx : ReleaseEscrow Pubkey} {s s' : State Pubkey} {now : Int64}
    {event : IronVaultEvent Pubkey} (h : ctx.release s now = .ok (s', event)) :
    ∃ escrow, ctx.Accepted s now s' event escrow := by
  simp only [release, Except.bind_eq_ok_iff, checkTokenProgram_eq_ok,
    State.loadProtocolConfig_eq_ok, State.loadEscrow_eq_ok, State.loadMint_eq_ok,
    State.loadCustody_eq_ok, State.loadOwnedToken_eq_ok, requireProtocolActive_eq_ok,
    State.requireBalance_eq_ok, require_eq_ok, fetch_eq_ok, UInt64.checkedSub_eq_some, Except.pure_eq_ok_iff,
    Prod.mk.injEq, exists_const] at h
  obtain ⟨-, config, ⟨hconfig, -⟩, escrow, ⟨hescrow, -⟩, hmaker, hescrowMint, hescrowProg,
    mint, ⟨hmint, hprog, hmintProg, hsupp⟩, custody, ⟨hkey, hcustody, -, -, -, howner⟩, h⟩ := h
  obtain ⟨recipient, ⟨hrecipient, -, -, -, hrecipientOwner⟩, hactive, hfunded, hexpires, -, s₁,
    htransfer, after, hafter, hsource, -, -, -, rfl, rfl⟩ := h
  have hmoves hpos :=
    Moves.of_transferChecked htransfer hmint hsupp hcustody hrecipient howner hpos hafter hsource
  rw [State.transferChecked_eq_ok] at htransfer
  obtain ⟨token, -, rfl⟩ := htransfer
  refine ⟨escrow, ⟨config, hconfig, hactive⟩, hmaker, hescrowMint, hexpires,
    ⟨hescrow, ?_, hkey, ⟨recipient, hrecipient, hrecipientOwner⟩, hfunded, hmoves, rfl⟩, rfl⟩
  rw [hescrowMint, hescrowProg]
  exact ⟨mint, hmint, hmintProg ▸ hprog, hmintProg, hsupp⟩

structure RefundEscrow.Accepted (ctx : RefundEscrow Pubkey) (s : State Pubkey) (now : Int64)
    (s' : State Pubkey) (event : IronVaultEvent Pubkey) (escrow : Escrow Pubkey) : Prop where
  mint_eq : escrow.mint = ctx.mint
  le_now : escrow.expiresAt ≤ now
  settled : escrow.Settled s ctx.escrow ctx.escrowToken ctx.makerDestination escrow.maker
    .refunded s'
  event_eq : event = .escrowRefunded {
    version := initialSchemaVersion
    escrow := ctx.escrow
    escrowToken := ctx.escrowToken
    caller := ctx.caller
    maker := escrow.maker
    makerDestination := ctx.makerDestination
    mint := escrow.mint
    amount := escrow.amount }

theorem RefundEscrow.refund_ok {ctx : RefundEscrow Pubkey} {s s' : State Pubkey} {now : Int64}
    {event : IronVaultEvent Pubkey} (h : ctx.refund s now = .ok (s', event)) :
    ∃ escrow, ctx.Accepted s now s' event escrow := by
  simp only [refund, Except.bind_eq_ok_iff, checkTokenProgram_eq_ok, State.loadEscrow_eq_ok,
    State.loadMint_eq_ok, State.loadCustody_eq_ok, State.loadOwnedToken_eq_ok, require_eq_ok,
    State.requireBalance_eq_ok, fetch_eq_ok, UInt64.checkedSub_eq_some, Except.pure_eq_ok_iff, Prod.mk.injEq,
    exists_const] at h
  obtain ⟨-, escrow, ⟨hescrow, -⟩, hescrowMint, hescrowProg, mint,
    ⟨hmint, hprog, hmintProg, hsupp⟩, custody, ⟨hkey, hcustody, -, -, -, howner⟩, h⟩ := h
  obtain ⟨dest, ⟨hdest, -, -, -, hdestOwner⟩, hfunded, hexpires, -, s₁, htransfer, after, hafter,
    hsource, -, -, -, rfl, rfl⟩ := h
  have hmoves hpos :=
    Moves.of_transferChecked htransfer hmint hsupp hcustody hdest howner hpos hafter hsource
  rw [State.transferChecked_eq_ok] at htransfer
  obtain ⟨token, -, rfl⟩ := htransfer
  refine ⟨escrow, hescrowMint, hexpires,
    ⟨hescrow, ?_, hkey, ⟨dest, hdest, hdestOwner⟩, hfunded, hmoves, rfl⟩, rfl⟩
  rw [hescrowMint, hescrowProg]
  exact ⟨mint, hmint, hmintProg ▸ hprog, hmintProg, hsupp⟩

end IronVault
