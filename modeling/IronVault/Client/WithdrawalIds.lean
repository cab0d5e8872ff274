import IronVault.Client.Arguments
import IronVault.Client.Symbolic
import IronVault.Program.Lemmas.Numbering

/-!
This module contains that concurrent calls of `requestWithdrawal` do not race for the ids of their
requests, whatever else happens on chain between the read of the vault and the submission.
-/

namespace IronVault.Client

variable {Pubkey : Type} [DecidableEq Pubkey] [Solana Pubkey]

/--
Exactly one request is new, the one with this number, and it stands at the address of its number.
-/
def Creates (s s' : State Pubkey) (v : Pubkey) (id : UInt64) : Prop :=
  s.withdrawalRequest (address (.withdrawal v id)) = none ∧
  ∃ request, request.vault = v ∧ request.withdrawalId = id ∧
    s'.withdrawalRequest =
      Function.update s.withdrawalRequest (address (.withdrawal v id)) (some request)

variable [Web3 Pubkey]

section Transaction

variable {programId : Pubkey} {now : Int64} {s s' : State Pubkey}

/--
Instructions that are not for the program leave its accounts alone.
-/
theorem Executes.setup {setup ixs : List (TransactionInstruction Pubkey)}
    (h : Executes programId now s (setup ++ ixs) s')
    (hsetup : ∀ ix ∈ setup, ix.requestWithdrawal? = none) :
    ∃ tr s₁, Run Step s tr s₁ ∧ s₁.vault = s.vault ∧ s₁.withdrawalRequest = s.withdrawalRequest ∧
      Executes programId now s₁ ixs s' := by
  induction setup generalizing s with
  | nil => exact ⟨[], s, .nil, rfl, rfl, h⟩
  | cons ix setup ih =>
    cases h with
    | program _ hread _ _ _ =>
      rw [hsetup ix List.mem_cons_self] at hread
      simp at hread
    | other _ hthird hrest =>
      obtain ⟨tr, s₁, hrun, hvault, hrequest, hexecutes⟩ :=
        ih hrest fun ix hix => hsetup ix (List.mem_cons_of_mem _ hix)
      exact ⟨_, s₁, (Run.nil.snoc (.thirdParty hthird)).trans hrun, hvault, hrequest, hexecutes⟩

/--
A submission that succeeds finds the counter that the call read, and takes its number.
-/
theorem Executes.submission [Borsh Pubkey] (hderives : DerivesAddresses programId)
    {call : Call Pubkey} {vaultState : VaultState Pubkey}
    {sent : Sent Pubkey (RequestWithdrawalAccounts Pubkey)}
    (hprogram : call.client.programId = programId) (hsent : call.submit vaultState = .ok sent)
    (h : Executes programId now s sent.instructions s') :
    ∃ tr vault vault', Run Step s tr s' ∧ s.vault call.vault = some vault ∧
      s'.vault call.vault = some vault' ∧
      vault'.nextWithdrawalId.toNat = vault.nextWithdrawalId.toNat + 1 ∧
      vaultState.nextWithdrawalId = vault.nextWithdrawalId.toNat ∧
      sent.accounts.withdrawalId = vault.nextWithdrawalId.toNat ∧
      sent.accounts.withdrawalRequest = address (.withdrawal call.vault vault.nextWithdrawalId) ∧
      Creates s s' call.vault vault.nextWithdrawalId := by
  obtain ⟨setup, ix, ctx, amount, id, hinstructions, hsetup, -, hix, hread, -, hctx, haddress, hid,
    haccounts, hrequest⟩ := IronVaultClient.submitWithdrawal_decoded hsent
  rw [hinstructions] at h
  obtain ⟨tr, s₁, hrun, hvaults, hrequests, h⟩ := h.setup fun ix hmem => (hsetup ix hmem).2
  cases h with
  | other hother _ _ => exact absurd (hix.trans hprogram) hother
  | program _ hread' hsigner hok hrest =>
    rw [hread, Option.some.injEq] at hread'
    subst hread'
    cases hrest
    obtain ⟨event, -, vault, asset, recipientToken, executeAfter, expiresAt, next, haccepted⟩ :=
      process_accepted hok
    -- The program derives the address from the counter it finds, the client from the one it read.
    have hkey : ctx.withdrawalRequest = address (.withdrawal call.vault id) := by
      rw [haddress, hprogram]
      exact hderives (.withdrawal call.vault id)
    have hnumber : vault.nextWithdrawalId = id := by
      have heq := haccepted.key_eq.symm.trans hkey
      rw [address_inj, Seeds.withdrawal.injEq] at heq
      exact heq.2
    obtain ⟨hfresh, request, hrequestVault, hrequestId, hpost⟩ := haccepted.created
    rw [hctx, hrequests] at hfresh hpost
    rw [hctx] at hrequestVault
    refine ⟨_, vault, { vault with nextWithdrawalId := next }, hrun.snoc (.instruction hsigner hok), ?_,
      ?_, haccepted.nextWithdrawalId_eq, ?_, ?_, ?_, hfresh, request, hrequestVault, hrequestId, hpost⟩
    . rw [← hvaults, ← hctx]
      exact haccepted.vault_eq
    . rw [haccepted.post_eq, ← hctx]
      exact Function.update_self ..
    . rw [hid, hnumber]
    . rw [haccounts, hnumber]
    . rw [hrequest, hkey, hnumber]

end Transaction

section Session

variable [Borsh Pubkey] {ι : Type} [DecidableEq ι] {programId : Pubkey} {w w' : World ι Pubkey}
variable {tr : List (Transition (World ι Pubkey) (WorldAction ι Pubkey))}
variable {a : WorldAction ι Pubkey} {v : Pubkey} {vault : Vault Pubkey}

/--
What every world of a run has: the chain is in a reachable state, and the calls that have read the
vault are those of clients of the program.
-/
structure Session (programId : Pubkey) (w : World ι Pubkey) : Prop where
  reachable : Reachable w.chain
  program {c : ι} {call : Call Pubkey} {vaultState : VaultState Pubkey} :
    w.calls c = .read call vaultState → call.client.programId = programId

/--
Seen from the chain, a step of the world is a run of the program.
-/
theorem WorldStep.chain_run (hderives : DerivesAddresses programId) (hw : Session programId w)
    (hstep : WorldStep programId w a w') : ∃ tr, Run Step w.chain tr w'.chain := by
  cases hstep with
  | chain h => exact ⟨_, Run.nil.snoc h⟩
  | read => exact ⟨_, .nil⟩
  | accepted hread hsent hexecutes =>
    obtain ⟨tr, -, -, hrun, -⟩ := hexecutes.submission hderives (hw.program hread) hsent
    exact ⟨tr, hrun⟩
  | rejected => exact ⟨_, .nil⟩

theorem Session.step (hderives : DerivesAddresses programId) (hw : Session programId w)
    (hstep : WorldStep programId w a w') : Session programId w' := by
  obtain ⟨tr, hrun⟩ := hstep.chain_run hderives hw
  refine ⟨hw.reachable.run hrun, ?_⟩
  intro c' call' vaultState' hcall
  cases hstep with
  | chain h => exact hw.program hcall
  | read hidle hprogram hvault =>
    dsimp only at hcall
    rw [Function.update_apply] at hcall
    split at hcall
    . cases hcall
      exact hprogram
    . exact hw.program hcall
  | accepted hread hsent hexecutes =>
    dsimp only at hcall
    rw [Function.update_apply] at hcall
    split at hcall
    . cases hcall
    . exact hw.program hcall
  | rejected hread =>
    dsimp only at hcall
    rw [Function.update_apply] at hcall
    split at hcall
    . cases hcall
    . exact hw.program hcall

theorem Session.run (hderives : DerivesAddresses programId) (hw : Session programId w)
    (hrun : Run (WorldStep programId) w tr w') : Session programId w' :=
  hrun.invariant hw fun _ _ _ _ hstep ht => ht.step hderives hstep

theorem session_of_run (hderives : DerivesAddresses programId)
    (hrun : Run (WorldStep programId) World.empty tr w) : Session programId w := by
  apply Session.run hderives _ hrun
  exact ⟨⟨[], .nil⟩, by simp [World.empty]⟩

theorem Session.counter_le (hderives : DerivesAddresses programId) (hw : Session programId w)
    (hrun : Run (WorldStep programId) w tr w') (hvault : w.chain.vault v = some vault) :
    ∃ vault', w'.chain.vault v = some vault' ∧
      vault.nextWithdrawalId.toNat ≤ vault'.nextWithdrawalId.toNat := by
  induction hrun with
  | nil => exact ⟨vault, hvault, Nat.le_refl _⟩
  | snoc hrun hstep ih =>
    obtain ⟨tr, hchain⟩ := hstep.chain_run hderives (hw.run hderives hrun)
    obtain ⟨vault₁, hvault₁, hle₁⟩ := ih
    obtain ⟨vault₂, hvault₂, hle₂⟩ := Run.counter_le hchain hvault₁
    exact ⟨vault₂, hvault₂, hle₁.trans hle₂⟩

/--
The submission of a call that succeeded: the call returns these accounts.
-/
def Succeeds (t : Transition (World ι Pubkey) (WorldAction ι Pubkey)) (call : Call Pubkey)
    (accounts : RequestWithdrawalAccounts Pubkey) : Prop :=
  ∃ c now, t.action = .submit c now ∧ t.post.calls c = .returned call accounts

theorem Succeeds.submission (hderives : DerivesAddresses programId)
    {t : Transition (World ι Pubkey) (WorldAction ι Pubkey)} {call : Call Pubkey}
    {accounts : RequestWithdrawalAccounts Pubkey} (hw : Session programId t.pre)
    (hstep : WorldStep programId t.pre t.action t.post) (h : Succeeds t call accounts) :
    ∃ vault vault', t.pre.chain.vault call.vault = some vault ∧
      t.post.chain.vault call.vault = some vault' ∧
      vault'.nextWithdrawalId.toNat = vault.nextWithdrawalId.toNat + 1 ∧
      accounts.withdrawalId = vault.nextWithdrawalId.toNat ∧
      accounts.withdrawalRequest = address (.withdrawal call.vault vault.nextWithdrawalId) ∧
      Creates t.pre.chain t.post.chain call.vault vault.nextWithdrawalId := by
  obtain ⟨pre, action, post⟩ := t
  obtain ⟨c, now, rfl, hreturned⟩ := h
  dsimp only at hw hstep hreturned ⊢
  cases hstep with
  | accepted hread hsent hexecutes =>
    dsimp only at hreturned
    rw [Function.update_self] at hreturned
    cases hreturned
    obtain ⟨-, vault, vault', -, hvault, hvault', hnext, -, hid, haddress, hcreates⟩ :=
      hexecutes.submission hderives (hw.program hread) hsent
    exact ⟨vault, vault', hvault, hvault', hnext, hid, haddress, hcreates⟩
  | rejected =>
    dsimp only at hreturned
    rw [Function.update_self] at hreturned
    cases hreturned

theorem submit_stale (hderives : DerivesAddresses programId) {c : ι} {now : Int64}
    {call : Call Pubkey} {vaultState : VaultState Pubkey} (hw : Session programId w)
    (hstep : WorldStep programId w (.submit c now) w') (hcall : w.calls c = .read call vaultState)
    (hvault : w.chain.vault call.vault = some vault)
    (hstale : vaultState.nextWithdrawalId ≠ vault.nextWithdrawalId.toNat) :
    w'.chain = w.chain ∧ w'.calls c = .failed call := by
  cases hstep with
  | accepted hread hsent hexecutes =>
    rw [hcall] at hread
    cases hread
    obtain ⟨-, vault', -, -, hvault', -, -, hfresh, -⟩ :=
      hexecutes.submission hderives (hw.program hcall) hsent
    rw [hvault, Option.some.injEq] at hvault'
    subst hvault'
    exact absurd hfresh hstale
  | rejected hread =>
    rw [hcall] at hread
    cases hread
    exact ⟨rfl, Function.update_self ..⟩

/--
Every submission that succeeds creates exactly the request whose id its call returns, no two of one
vault return the same id, a submission is rejected without effect if the counter has moved since the
read, which it only does forwards, and the requests of a vault are always those below its counter.
-/
theorem withdrawal_ids_race_free (hderives : DerivesAddresses programId)
    (hrun : Run (WorldStep programId) World.empty tr w) :
    (∀ t ∈ tr, ∀ call accounts, Succeeds t call accounts →
      ∃ id : UInt64, accounts.withdrawalId = id.toNat ∧
        accounts.withdrawalRequest = address (.withdrawal call.vault id) ∧
        Creates t.pre.chain t.post.chain call.vault id) ∧
    (∀ before t middle t' after, tr = before ++ t :: (middle ++ t' :: after) →
      ∀ call call' accounts accounts', Succeeds t call accounts → Succeeds t' call' accounts' →
        call.vault = call'.vault → accounts.withdrawalId ≠ accounts'.withdrawalId) ∧
    (∀ t ∈ tr, ∀ c now call vaultState vault, t.action = .submit c now →
      t.pre.calls c = .read call vaultState → t.pre.chain.vault call.vault = some vault →
      vaultState.nextWithdrawalId ≠ vault.nextWithdrawalId.toNat →
        t.post.chain = t.pre.chain ∧ t.post.calls c = .failed call) ∧
    (∀ t ∈ tr, ∀ v vault, t.pre.chain.vault v = some vault →
      ∃ vault', t.post.chain.vault v = some vault' ∧
        vault.nextWithdrawalId ≤ vault'.nextWithdrawalId) ∧
    (∀ v vault, w.chain.vault v = some vault → RequestsNumbered w.chain v vault) := by
  refine ⟨?_, ?_, ?_, ?_, ?_⟩
  . intro t ht call accounts hsucceeds
    obtain ⟨tr₁, hpre, hstep⟩ := hrun.of_mem ht
    obtain ⟨vault, -, -, -, -, hid, haddress, hcreates⟩ :=
      hsucceeds.submission hderives (session_of_run hderives hpre) hstep
    exact ⟨vault.nextWithdrawalId, hid, haddress, hcreates⟩
  . rintro before t middle t' after rfl call call' accounts accounts' hsucceeds hsucceeds' hvault
    obtain ⟨hpre, hstep, hrest⟩ := hrun.of_cons_append
    obtain ⟨hmiddle, hstep', -⟩ := hrest.of_cons_append
    have hw := session_of_run hderives hpre
    have hpost := hw.step hderives hstep
    obtain ⟨vault, vault₁, -, hvault₁, hnext, hid, -⟩ := hsucceeds.submission hderives hw hstep
    -- Behind the first submission the counter is above its id, and it stays there.
    obtain ⟨vault₂, hvault₂, hle⟩ := hpost.counter_le hderives hmiddle hvault₁
    obtain ⟨vault₃, -, hvault₃, -, -, hid', -⟩ :=
      hsucceeds'.submission hderives (hpost.run hderives hmiddle) hstep'
    rw [← hvault, hvault₂, Option.some.injEq] at hvault₃
    subst hvault₃
    rw [hid, hid']
    omega
  . intro t ht c now call vaultState vault haction hcall hvault hstale
    obtain ⟨tr₁, hpre, hstep⟩ := hrun.of_mem ht
    rw [haction] at hstep
    exact submit_stale hderives (session_of_run hderives hpre) hstep hcall hvault hstale
  . intro t ht v vault hvault
    obtain ⟨tr₁, hpre, hstep⟩ := hrun.of_mem ht
    obtain ⟨vault', hvault', hle⟩ :=
      (session_of_run hderives hpre).counter_le hderives (Run.nil.snoc hstep) hvault
    exact ⟨vault', hvault', UInt64.le_iff_toNat_le.mpr hle⟩
  . intro v vault hvault
    exact (session_of_run hderives hrun).reachable.requestsNumbered hvault

theorem run_chain {s s' : State Pubkey} {tr : List (Transition (State Pubkey) (Action Pubkey))}
    (hrun : Run Step s tr s') (calls : ι → Phase Pubkey) :
    Run (WorldStep programId) ⟨s, calls⟩
      (tr.map fun t => ⟨⟨t.pre, calls⟩, .chain t.action, ⟨t.post, calls⟩⟩) ⟨s', calls⟩ :=
  Run.map (f := fun s => (⟨s, calls⟩ : World ι Pubkey)) (g := fun t => WorldAction.chain t.action)
    hrun fun _ _ hstep => WorldStep.chain hstep

end Session

end IronVault.Client

/-!
Two calls of the authority that read the same counter. The first submission is accepted, the second
one is rejected.
-/

namespace IronVault.Scenario

open Client

def client : IronVaultClient Key := ⟨authority, .wallet 23⟩

def call : Call Key where
  client
  params := {
    vault := .publicKey vault
    mint := .publicKey mint
    recipient := .publicKey recipient
    amount := .bigint 30
    recipientToken := some (.publicKey recipientToken)
  }
  vault
  mint
  recipient
  amount := 30
  tokenProgram
  vault_eq := rfl
  mint_eq := rfl
  recipient_eq := rfl
  amount_eq := rfl

def limited : List (Instruction Key × Int64) :=
  setup ++ [(updateLimits, 4)]

theorem derivesAddresses : DerivesAddresses client.programId :=
  Key.derivesAddresses (by decide)

theorem executes_call :
    ∃ sent, call.submit ⟨authority, 0⟩ = .ok sent ∧
      Executes client.programId 6 (start.final limited) sent.instructions
        ((start.final limited).apply (requestWithdrawal 30) 6) := by
  have hprotocol : deriveProtocolAddress client.programId = Key.protocol :=
    derivesAddresses .protocol
  have hasset : deriveVaultAssetAddress vault mint client.programId = vaultAsset :=
    derivesAddresses (.vaultAsset vault mint)
  have hrequest : deriveWithdrawalAddress vault 0 client.programId = .ok (.withdrawal vault 0) :=
    congrArg Except.ok (derivesAddresses (.withdrawal vault 0))
  obtain ⟨hstep, -⟩ := @State.step_apply (start.final limited) (requestWithdrawal 30) 6 []
    (by decide +kernel)
  cases hstep with
  | instruction hsigner hok =>
    unfold Call.submit IronVaultClient.submitWithdrawal
    dsimp only [call]
    rw [hprotocol, hasset, hrequest]
    refine ⟨_, rfl, .program rfl ?_ hsigner hok .nil⟩
    exact TransactionInstruction.requestWithdrawal?_eq
      (TransactionInstruction.carries_of_data rfl rfl) rfl

theorem vault_limited : (start.final limited).vault vault = some createdVault := by
  decide +kernel

def oneRead : World Bool Key where
  chain := start.final limited
  calls := Function.update (fun _ => .idle) true (.read call ⟨authority, 0⟩)

def bothRead : World Bool Key where
  chain := start.final limited
  calls := Function.update oneRead.calls false (.read call ⟨authority, 0⟩)

theorem run_bothRead :
    ∃ tr, Run (WorldStep client.programId) (World.empty : World Bool Key) tr bothRead := by
  have hchain := @run_chain Key _ _ _ _ Bool _ client.programId _ _ _
    (history_trace limited (by decide +kernel)) (fun _ => .idle)
  have hread : WorldStep client.programId ⟨start.final limited, fun _ => .idle⟩ (.read true)
      oneRead :=
    @WorldStep.read _ _ _ _ _ _ _ _ ⟨_, _⟩ true call createdVault rfl rfl vault_limited
  have hread' : WorldStep client.programId oneRead (.read false) bothRead :=
    @WorldStep.read _ _ _ _ _ _ _ _ oneRead false call createdVault rfl rfl vault_limited
  exact ⟨_, (hchain.snoc hread).snoc hread'⟩

theorem withdrawal_ids_race_free_raced :
    ∃ tr, ∃ w : World Bool Key, Run (WorldStep client.programId) World.empty tr w ∧
      (∃ accounts, w.calls true = .returned call accounts) ∧ w.calls false = .failed call ∧
      ∀ v vault, w.chain.vault v = some vault → RequestsNumbered w.chain v vault := by
  obtain ⟨tr, hrun⟩ := run_bothRead
  obtain ⟨sent, hsent, hexecutes⟩ := executes_call
  have haccepted : WorldStep client.programId bothRead (.submit true 6)
      ⟨_, Function.update bothRead.calls true (.returned call sent.accounts)⟩ :=
    .accepted rfl hsent hexecutes
  have hrejected := (hrun.snoc haccepted).snoc
    (@WorldStep.rejected _ _ _ _ _ _ _ _ _ false 7 call _ rfl)
  refine ⟨_, _, hrejected, ⟨sent.accounts, rfl⟩, rfl, ?_⟩
  exact (withdrawal_ids_race_free derivesAddresses hrejected).2.2.2.2

end IronVault.Scenario
