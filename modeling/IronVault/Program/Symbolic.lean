import IronVault.Program.Impl.Step

/-!
This module contains a symbolic ledger: keys are terms, an address is the term of its seeds, and
`transfer_checked` is written out. It shows that the laws of `Solana` can be met, and it is where
runs are replayed on concrete instructions.
-/

namespace IronVault

inductive Key where
  | wallet (n : Nat)
  | protocol
  | escrow (maker : Key) (escrowId : UInt64)
  | escrowToken (escrow : Key)
  | vault (namespaceAuthority : Key) (vaultId : UInt64)
  | vaultAsset (vault mint : Key)
  | vaultToken (vault mint : Key)
  | role (vault principal : Key)
  | withdrawal (vault : Key) (withdrawalId : UInt64)
  deriving DecidableEq

namespace Key

def ofSeeds : Seeds Key → Key
  | .protocol => .protocol
  | .escrow k escrowId => .escrow k escrowId
  | .escrowToken k => .escrowToken k
  | .vault k vaultId => .vault k vaultId
  | .vaultAsset k m => .vaultAsset k m
  | .vaultToken k m => .vaultToken k m
  | .role k p => .role k p
  | .withdrawal k withdrawalId => .withdrawal k withdrawalId

theorem ofSeeds_inj {seeds seeds' : Seeds Key} (h : ofSeeds seeds = ofSeeds seeds') :
    seeds = seeds' := by
  cases seeds <;> cases seeds' <;> simp_all [ofSeeds]

theorem ofSeeds_ne_wallet {seeds : Seeds Key} {n : Nat} : ofSeeds seeds ≠ .wallet n := by
  cases seeds <;> simp [ofSeeds]

def createProgramAddress (seeds : Seeds Key) (bump : UInt8) : Option Key :=
  if bump = 255 then some (ofSeeds seeds) else none

def debit (src : TokenAccount Key) (amount : UInt64) : TokenAccount Key :=
  if src.delegate = some src.owner then
    { src with
      amount := src.amount - amount
      delegatedAmount := src.delegatedAmount - amount
      delegate := if src.delegatedAmount = amount then none else src.delegate }
  else
    { src with amount := src.amount - amount }

theorem debited_debit {src : TokenAccount Key} {amount : UInt64} (hsends : src.Sends amount)
    (hle : amount ≤ src.amount) : src.Debited (debit src amount) amount := by
  have hsub : src.amount.toNat = (src.amount - amount).toNat + amount.toNat := by
    rw [UInt64.toNat_sub_of_le _ _ hle]
    rw [UInt64.le_iff_toNat_le] at hle
    omega
  unfold debit
  split
  . next hdelegate => exact ⟨hsends, hsub, fun hne => absurd hdelegate hne, rfl, rfl, rfl⟩
  . exact ⟨hsends, hsub, fun _ => rfl, rfl, rfl, rfl⟩

def transferChecked (token : Key → Option (TokenAccount Key)) (mint : Key → Option (Mint Key))
    (x : TransferChecked Key) (amount : UInt64) (decimals : UInt8) :
    Option (Key → Option (TokenAccount Key)) :=
  match token x.source, token x.destination, mint x.mint with
  | some src, some dst, some m =>
    if src.tokenProgram = x.tokenProgram ∧ dst.tokenProgram = x.tokenProgram ∧
        m.tokenProgram = x.tokenProgram ∧ src.mint = x.mint ∧ dst.mint = x.mint ∧
        m.decimals = decimals ∧ src.owner = x.authority ∧ src.Sends amount ∧ dst.Receives ∧
        amount ≤ src.amount then
      if x.source = x.destination then
        some token
      else if dst.amount.toNat + amount.toNat < 2 ^ 64 then
        some (Function.update
          (Function.update token x.source (some (debit src amount)))
          x.destination (some { dst with amount := dst.amount + amount }))
      else
        none
    else
      none
  | _, _, _ => none

instance : Solana Key where
  createProgramAddress
  findProgramAddress seeds := (ofSeeds seeds, 255)
  defaultKey := .wallet 0
  tokenId := .wallet 1
  token2022Id := .wallet 2
  transferChecked
  createProgramAddress_find seeds := by simp [createProgramAddress]
  createProgramAddress_inj := by
    intro seeds seeds' bump bump' key h h'
    simp only [createProgramAddress, Option.ite_none_right_eq_some, Option.some.injEq] at h h'
    exact ⟨ofSeeds_inj (h.2.trans h'.2.symm), h.1.trans h'.1.symm⟩
  transferChecked_ok := by
    intro token token' mint x amount decimals src dst m h hsrc hdst hm _ _ hne
    simp only [transferChecked, hsrc, hdst, hm, hne, Option.ite_none_right_eq_some,
      Option.some.injEq, if_false] at h
    obtain ⟨⟨-, -, -, -, -, -, -, hsends, hreceives, hle⟩, hroom, rfl⟩ := h
    exact ⟨debit src amount, debited_debit hsends hle, hreceives, hroom, rfl⟩
  transferChecked_self := by
    intro token token' mint x amount decimals h heq
    simp only [transferChecked, heq] at h
    split at h
    . simp only [if_true, Option.ite_none_right_eq_some, Option.some.injEq] at h
      exact h.2.symm
    . simp at h
  transferChecked_succeeds := by
    intro token mint x amount src dst m hsrc hdst hm hsrcProg hdstProg hmProg _ hsrcMint hdstMint
      howner hsends hreceives hle hroom
    simp only [transferChecked, hsrc, hdst, hm]
    rw [if_pos ⟨hsrcProg, hdstProg, hmProg, hsrcMint, hdstMint, trivial, howner, hsends, hreceives,
      hle⟩, if_pos hroom]
    split <;> rfl

theorem not_isProgramAddress_wallet (n : Nat) : ¬ IsProgramAddress (Key.wallet n) := by
  rintro ⟨seeds, bump, h⟩
  simp only [Solana.createProgramAddress, createProgramAddress, Option.ite_none_right_eq_some,
    Option.some.injEq] at h
  exact ofSeeds_ne_wallet h.2

end Key

/--
The ledger in which third parties hold the given mints and token accounts, before the program is
used.
-/
def State.funded (token : Nat → Option (TokenAccount Key)) (mint : Nat → Option (Mint Key)) :
    State Key :=
  { State.empty with
    token
      | .wallet n => token n
      | _ => none
    mint
      | .wallet n => mint n
      | _ => none }

theorem Step.funded (token : Nat → Option (TokenAccount Key)) (mint : Nat → Option (Mint Key)) :
    Step State.empty .thirdParty (State.funded token mint) := by
  refine .thirdParty ⟨?_, ?_, ?_, ?_⟩
  . intro key hkey _
    cases key with
    | wallet n => exact absurd hkey (Key.not_isProgramAddress_wallet n)
    | _ => rfl
  . intro key hkey _
    cases key with
    | wallet n => exact absurd hkey (Key.not_isProgramAddress_wallet n)
    | _ => rfl
  . simp [State.empty]
  . simp [State.empty]

def State.apply (s : State Key) (ix : Instruction Key) (now : Int64) : State Key :=
  match process s now ix with
  | .ok (s', _) => s'
  | .error _ => s

def State.replay (s : State Key) :
    List (Instruction Key × Int64) → List (Transition (State Key) (Action Key))
  | [] => []
  | (ix, now) :: ixs =>
    ⟨s, .instruction ix now, s.apply ix now⟩ :: (s.apply ix now).replay ixs

def State.final (s : State Key) : List (Instruction Key × Int64) → State Key
  | [] => s
  | (ix, now) :: ixs => (s.apply ix now).final ixs

theorem State.action_of_mem_replay {s : State Key} {ixs : List (Instruction Key × Int64)}
    {t : Transition (State Key) (Action Key)} (h : t ∈ s.replay ixs) :
    ∃ x ∈ ixs, t.action = .instruction x.1 x.2 := by
  induction ixs generalizing s with
  | nil => simp [replay] at h
  | cons head ixs ih =>
    cases List.mem_cons.mp h with
    | inl h => exact ⟨head, List.mem_cons_self, by rw [h]⟩
    | inr h =>
      obtain ⟨x, hx, haction⟩ := ih h
      exact ⟨x, List.mem_cons_of_mem _ hx, haction⟩

def State.accepts (s : State Key) : List (Instruction Key × Int64) → Bool
  | [] => true
  | (ix, now) :: ixs =>
    (match ix.signer with
      | none | some (.wallet _) => true
      | _ => false) && (process s now ix).isOk && (s.apply ix now).accepts ixs

theorem State.step_apply {s : State Key} {ix : Instruction Key} {now : Int64}
    {ixs : List (Instruction Key × Int64)} (h : s.accepts ((ix, now) :: ixs) = true) :
    Step s (.instruction ix now) (s.apply ix now) ∧ (s.apply ix now).accepts ixs = true := by
  simp only [accepts, Bool.and_eq_true] at h
  obtain ⟨⟨hsigner, hok⟩, hrest⟩ := h
  refine ⟨?_, hrest⟩
  cases hprocess : process s now ix with
  | error e => simp [hprocess, Except.isOk, Except.toBool] at hok
  | ok result =>
    obtain ⟨s', event⟩ := result
    refine .instruction ?_ (by rw [hprocess, apply, hprocess])
    intro signer hmem
    rw [Option.mem_def] at hmem
    simp only [hmem] at hsigner
    split at hsigner
    . next heq => simp at heq
    . next n heq =>
      rw [Option.some.injEq] at heq
      rw [heq]
      exact Key.not_isProgramAddress_wallet n
    . simp at hsigner

theorem State.run_replay {s : State Key} {ixs : List (Instruction Key × Int64)}
    (h : s.accepts ixs = true) : Run Step s (s.replay ixs) (s.final ixs) := by
  induction ixs generalizing s with
  | nil => exact .nil
  | cons head ixs ih =>
    obtain ⟨hstep, hrest⟩ := State.step_apply h
    have hrun := (Run.nil.snoc hstep).trans (ih hrest)
    exact hrun

theorem History.replay {token : Nat → Option (TokenAccount Key)} {mint : Nat → Option (Mint Key)}
    {ixs : List (Instruction Key × Int64)} (h : (State.funded token mint).accepts ixs = true) :
    History (⟨State.empty, .thirdParty, State.funded token mint⟩ ::
      (State.funded token mint).replay ixs) ((State.funded token mint).final ixs) :=
  (Run.nil.snoc (Step.funded token mint)).trans (State.run_replay h)

/-!
The cast of the replayed runs: one mint of the SPL token program, a vault authority who also holds
tokens, and a recipient.
-/

namespace Scenario

def admin : Key := .wallet 3
def protocolGuardian : Key := .wallet 4
def authority : Key := .wallet 5
def guardian : Key := .wallet 6
def mint : Key := .wallet 7
def authorityToken : Key := .wallet 8
def recipient : Key := .wallet 9
def recipientToken : Key := .wallet 10
def tokenProgram : Key := .wallet 1
def vault : Key := .vault authority 0
def vaultAsset : Key := .vaultAsset vault mint
def vaultToken : Key := .vaultToken vault mint

def token : Nat → Option (TokenAccount Key)
  | 8 => some { TokenAccount.initializeAccount tokenProgram mint authority with amount := 1000 }
  | 10 => some (.initializeAccount tokenProgram mint recipient)
  | _ => none

def mints : Nat → Option (Mint Key)
  | 7 => some { tokenProgram, decimals := 6, extensionTypes := [] }
  | _ => none

def start : State Key :=
  State.funded token mints

def setup : List (Instruction Key × Int64) := [
  (.initializeProtocol ⟨admin, .protocol⟩ admin protocolGuardian, 0),
  (.createVault ⟨authority, .protocol, vault⟩ 0 guardian, 1),
  (.registerAsset ⟨authority, .protocol, vault, mint, vaultAsset, vaultToken, tokenProgram⟩, 2),
  (.deposit ⟨authority, vault, mint, vaultAsset, authorityToken, vaultToken, tokenProgram⟩ 100, 3)
]

def createdVault : Vault Key where
  namespaceAuthority := authority
  authority
  guardian
  vaultId := 0
  nextWithdrawalId := 0
  paused := false
  bump := 255
  reserved := .replicate 46 0

def protocolInitialized : IronVaultEvent Key :=
  .protocolInitialized {
    version := 1, protocolConfig := .protocol, admin, guardian := protocolGuardian }

def vaultCreated : IronVaultEvent Key :=
  .vaultCreated {
    version := 1, vault, namespaceAuthority := authority, authority, guardian, vaultId := 0 }

def vaultPauseUpdated (paused : Bool) : IronVaultEvent Key :=
  .vaultPauseUpdated { version := 1, vault, caller := authority, paused }

def policy : Policy where
  maxPerTransaction := 50
  windowLimit := 60
  windowSeconds := 100
  timelockThreshold := 20
  timelockSeconds := 10
  requestExecutionWindowSeconds := 10

def updateLimits : Instruction Key :=
  .updateLimits ⟨authority, .protocol, vault, mint, vaultAsset, []⟩ policy

def withdraw (amount : UInt64) : Instruction Key :=
  .withdraw ⟨authority, .protocol, vault, mint, vaultAsset, vaultToken, recipientToken, tokenProgram,
    []⟩ amount

def requestWithdrawal (amount : UInt64) : Instruction Key :=
  .requestWithdrawal ⟨authority, .protocol, vault, mint, vaultAsset, recipientToken,
    .withdrawal vault 0, []⟩ amount

def executeWithdrawal : Instruction Key :=
  .executeWithdrawal ⟨recipient, .protocol, vault, mint, vaultAsset, .withdrawal vault 0, vaultToken,
    recipientToken, tokenProgram⟩

def trace (ixs : List (Instruction Key × Int64)) : List (Transition (State Key) (Action Key)) :=
  ⟨State.empty, .thirdParty, start⟩ :: start.replay ixs

def next (ixs : List (Instruction Key × Int64)) (ix : Instruction Key) (now : Int64) :
    Transition (State Key) (Action Key) :=
  ⟨start.final ixs, .instruction ix now, (start.final ixs).apply ix now⟩

theorem history_trace (ixs : List (Instruction Key × Int64)) (h : start.accepts ixs = true) :
    History (trace ixs) (start.final ixs) :=
  History.replay h

theorem trace_append (ixs ixs' : List (Instruction Key × Int64)) :
    trace (ixs ++ ixs') = trace ixs ++ (start.final ixs).replay ixs' := by
  have (s : State Key) : s.replay (ixs ++ ixs') = s.replay ixs ++ (s.final ixs).replay ixs' := by
    induction ixs generalizing s with
    | nil => rfl
    | cons head ixs ih => exact congrArg (_ :: ·) (ih (s.apply head.1 head.2))
  rw [trace, this]
  rfl

def released : List (Instruction Key × Int64) := [
  (.initializeProtocol ⟨admin, .protocol⟩ admin protocolGuardian, 0),
  (.createEscrow ⟨authority, .protocol, mint, authorityToken, .escrow authority 7,
    .escrowToken (.escrow authority 7), tokenProgram⟩ 7 recipient 40 100, 1),
  (.releaseEscrow ⟨authority, .protocol, .escrow authority 7, mint,
    .escrowToken (.escrow authority 7), recipientToken, tokenProgram⟩, 99)
]

def requested : List (Instruction Key × Int64) :=
  setup ++ [(updateLimits, 4), (withdraw 5, 5), (requestWithdrawal 30, 6)]

theorem history_requested : History (trace requested) (start.final requested) :=
  history_trace requested (by decide +kernel)

theorem history_executed : History (trace (requested ++ [(executeWithdrawal, 16)]))
    (start.final (requested ++ [(executeWithdrawal, 16)])) :=
  history_trace _ (by decide +kernel)

end Scenario
end IronVault
