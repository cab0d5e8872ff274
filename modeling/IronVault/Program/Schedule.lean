import IronVault.Util.Schedule
import IronVault.Program.Lemmas.Frame
import IronVault.Program.Lemmas.TwoRuns
import IronVault.Program.Symbolic

/-!
This module contains that the locks of the instructions are enough to run them in any order. Two
instructions conflict when one of them declares an account as mutable that the other one names.
-/

namespace IronVault

variable {Pubkey : Type} [DecidableEq Pubkey] [Solana Pubkey]

open Except (Related)

/--
An instruction and the clock value it runs at.
-/
structure Job (Pubkey : Type) where
  instruction : Instruction Pubkey
  now : Int64

def Job.Signed (x : Job Pubkey) : Prop :=
  ∀ signer ∈ x.instruction.signer, ¬ IsProgramAddress signer

structure Job.Independent (x y : Job Pubkey) : Prop where
  left : ∀ key ∈ x.instruction.writable, key ∉ y.instruction.accounts
  right : ∀ key ∈ y.instruction.writable, key ∉ x.instruction.accounts

namespace State

/--
A transaction that fails changes nothing.
-/
def submit (s : State Pubkey) (x : Job Pubkey) : State Pubkey :=
  match process s x.now x.instruction with
  | .ok (s', _) => s'
  | .error _ => s

def outcome (s : State Pubkey) (x : Job Pubkey) : Except Error (Option (IronVaultEvent Pubkey)) :=
  (process s x.now x.instruction).map Prod.snd

theorem submit_cases (s : State Pubkey) {x : Job Pubkey} (hsigned : x.Signed) :
    s.submit x = s ∨ Step s (.instruction x.instruction x.now) (s.submit x) := by
  unfold submit
  cases h : process s x.now x.instruction with
  | error e => exact .inl rfl
  | ok result => exact .inr (.instruction hsigned h)

variable {s : State Pubkey} {x y : Job Pubkey}

theorem reachable_submit (hs : Reachable s) (hsigned : x.Signed) : Reachable (s.submit x) := by
  rcases s.submit_cases hsigned with h | h
  . rwa [h]
  . exact hs.step h

theorem submit_frame (hs : Reachable s) (hsigned : x.Signed) {key : Pubkey}
    (hkey : key ∉ x.instruction.writable) : (s.submit x).account key = s.account key := by
  rcases s.submit_cases hsigned with h | h
  . rw [h]
  . exact h.account_frame hs hkey

/--
The accounts `K` are the same in both states.
-/
def Agree (K : Pubkey → Prop) (s t : State Pubkey) : Prop :=
  ∀ key, K key → t.account key = s.account key

omit [DecidableEq Pubkey] [Solana Pubkey] in
theorem Agree.similar {K : Pubkey → Prop} {t : State Pubkey} (h : s.Agree K t) :
    s.Similar K Eq (fun _ => Eq) t := by
  simp only [Agree, account, Account.mk.injEq] at h
  refine ⟨?_, ?_, ?_, ?_, ?_, ?_, ?_, ?_⟩
  . intro key hkey
    have heq := (h key hkey).1
    cases hs : s.protocolConfig key with
    | none => exact .inl ⟨rfl, heq.trans hs⟩
    | some config => exact .inr ⟨config, config.pauseFlags, rfl, heq.trans hs, rfl⟩
  . intro key hkey
    have heq := (h key hkey).2.2.1
    cases hs : s.vault key with
    | none => exact .inl ⟨rfl, heq.trans hs⟩
    | some vault => exact .inr ⟨vault, vault.paused, rfl, heq.trans hs, rfl⟩
  all_goals
    intro key hkey
    simp [h key hkey]

omit [DecidableEq Pubkey] [Solana Pubkey] in
theorem Similar.agree {K : Pubkey → Prop} {t : State Pubkey}
    (h : s.Similar K Eq (fun _ => Eq) t) : s.Agree K t := by
  intro key hkey
  ext1
  . rcases h.protocolConfig hkey with ⟨hs, ht⟩ | ⟨config, flags, hs, ht, rfl⟩
    . exact ht.trans hs.symm
    . exact ht.trans hs.symm
  . exact h.escrow hkey
  . rcases h.vault hkey with ⟨hs, ht⟩ | ⟨vault, paused, hs, ht, rfl⟩
    . exact ht.trans hs.symm
    . exact ht.trans hs.symm
  . exact h.vaultAsset hkey
  . exact h.roleAssignment hkey
  . exact h.withdrawalRequest hkey
  . exact h.token hkey
  . exact h.mint hkey

section Locality

variable {t : State Pubkey}

theorem process_agree (htransfers : ∀ K : Pubkey → Prop, TransfersWithin K)
    (h : s.Agree (· ∈ x.instruction.accounts) t) :
    Related (fun p q => p.1.Agree (· ∈ x.instruction.accounts) q.1 ∧ q.2 = p.2)
      (process s x.now x.instruction) (process t x.now x.instruction) := by
  have hblind : x.instruction.Blind Eq (fun _ => Eq) := by
    refine ⟨?_, ?_, ?_⟩
    . rintro _ _ flags _ rfl
      rfl
    . intro _ _ _ _ _ heq
      exact heq
    . intro _ _ _ _ heq
      exact heq
  apply Related.mono
  . apply process_related h.similar (htransfers _) (fun _ => rfl) (fun _ _ => rfl) hblind
    intro key hkey
    exact hkey
  . intro p q hsame
    exact ⟨hsame.1.agree, hsame.2⟩

theorem outcome_agree (htransfers : ∀ K : Pubkey → Prop, TransfersWithin K)
    (h : s.Agree (· ∈ x.instruction.accounts) t) : t.outcome x = s.outcome x := by
  have hrelated := process_agree htransfers h
  unfold outcome
  generalize process s x.now x.instruction = p at hrelated
  generalize process t x.now x.instruction = q at hrelated
  cases hrelated with
  | ok h => exact congrArg Except.ok h.2
  | error => rfl

theorem submit_agree (htransfers : ∀ K : Pubkey → Prop, TransfersWithin K)
    (h : s.Agree (· ∈ x.instruction.accounts) t) :
    (s.submit x).Agree (· ∈ x.instruction.accounts) (t.submit x) := by
  have hrelated := process_agree htransfers h
  unfold submit
  generalize process s x.now x.instruction = p at hrelated
  generalize process t x.now x.instruction = q at hrelated
  cases hrelated with
  | ok h => exact h.1
  | error => exact h

end Locality

section Independent

variable (hs : Reachable s) (hx : x.Signed) (hy : y.Signed) (h : x.Independent y)

include hs hx h in
theorem agree_submit : s.Agree (· ∈ y.instruction.accounts) (s.submit x) := by
  intro key hkey
  apply submit_frame hs hx
  intro hwritable
  exact h.left key hwritable hkey

include hs hx hy h in
theorem submit_comm (htransfers : ∀ K : Pubkey → Prop, TransfersWithin K) :
    (s.submit x).submit y = (s.submit y).submit x := by
  have hx' := reachable_submit hs hx
  have hy' := reachable_submit hs hy
  have hafterX := submit_agree htransfers (agree_submit hs hx h)
  have hafterY := submit_agree htransfers (agree_submit hs hy ⟨h.right, h.left⟩)
  apply eq_of_account
  intro key
  -- an account that one of the two may write is not named by the other
  by_cases hkeyX : key ∈ x.instruction.writable
  . have haccounts := Instruction.writable_subset hkeyX
    have hkeyY : key ∉ y.instruction.writable := fun hmem => h.right key hmem haccounts
    rw [submit_frame hx' hy hkeyY, hafterY key haccounts]
  . rw [submit_frame hy' hx hkeyX]
    by_cases hkeyY : key ∈ y.instruction.writable
    . rw [hafterX key (Instruction.writable_subset hkeyY)]
    . rw [submit_frame hx' hy hkeyY, submit_frame hs hx hkeyX, submit_frame hs hy hkeyY]

end Independent

theorem schedulable (htransfers : ∀ K : Pubkey → Prop, TransfersWithin K) :
    Schedulable (submit : State Pubkey → Job Pubkey → State Pubkey) outcome Reachable Job.Signed
      Job.Independent where
  inv hs hx := reachable_submit hs hx
  symm h := ⟨h.right, h.left⟩
  outcome_eq hs hx _ h := outcome_agree htransfers (agree_submit hs hx h)
  comm hs hx hy h := submit_comm hs hx hy h htransfers

end State

/--
A batch of instructions without lock conflicts ends in the same state in every order, and every
instruction of it has the outcome that it has on its own.
-/
theorem independent_batch_any_order (htransfers : ∀ K : Pubkey → Prop, TransfersWithin K)
    {s : State Pubkey} (hs : Reachable s) {xs ys : List (Job Pubkey)}
    (hsigned : ∀ x ∈ xs, x.Signed) (hxs : xs.Pairwise Job.Independent) (hperm : xs.Perm ys) :
    ys.foldl State.submit s = xs.foldl State.submit s ∧
      ∀ before x after, ys = before ++ x :: after →
        (before.foldl State.submit s).outcome x = s.outcome x := by
  have hschedule := State.schedulable htransfers
  constructor
  . rw [hschedule.foldl_perm hperm hsigned hxs hs]
  . rintro before x after rfl
    have hsigned' : ∀ y ∈ before ++ x :: after, y.Signed := by
      intro y hy
      exact hsigned y (hperm.mem_iff.mpr hy)
    have hys := (hperm.pairwise_iff hschedule.symm).mp hxs
    rw [List.pairwise_append] at hys
    apply hschedule.outcome_foldl _ (hsigned' x (by simp)) hs
    intro y hy
    exact ⟨hsigned' y (List.mem_append_left _ hy), hys.2.2 y hy x List.mem_cons_self⟩

theorem Key.transfersWithin (K : Key → Prop) : TransfersWithin K := by
  intro token token' mint mint' x amount decimals htoken hmint hsource hdestination hx
  simp only [Solana.transferChecked, Key.transferChecked, htoken _ hsource, htoken _ hdestination,
    hmint _ hx]
  split
  . split
    . split
      . exact .inr ⟨token, token', rfl, rfl, htoken⟩
      . split
        . refine .inr ⟨_, _, rfl, rfl, ?_⟩
          intro key hkey
          simp only [Function.update_apply, htoken key hkey]
        . exact .inl ⟨rfl, rfl⟩
    . exact .inl ⟨rfl, rfl⟩
  . exact .inl ⟨rfl, rfl⟩

namespace Scenario

def batch : List (Job Key) := [
  ⟨.deposit ⟨authority, vault, mint, vaultAsset, authorityToken, vaultToken, tokenProgram⟩ 7, 7⟩,
  ⟨.cancelWithdrawal ⟨guardian, vault, .withdrawal vault 0, []⟩, 7⟩,
  ⟨.setProtocolPause ⟨protocolGuardian, .protocol⟩ pauseVaultOutflow, 7⟩
]

end Scenario

open Scenario in
theorem independent_batch_any_order_reversed :
    batch.reverse.foldl State.submit (start.final requested)
        = batch.foldl State.submit (start.final requested) ∧
      ∀ before x after, batch.reverse = before ++ x :: after →
        (before.foldl State.submit (start.final requested)).outcome x
          = (start.final requested).outcome x := by
  apply independent_batch_any_order Key.transfersWithin ⟨_, history_requested⟩
  . intro x hx signer hsigner
    simp only [batch, List.mem_cons, List.not_mem_nil, or_false] at hx
    rcases hx with rfl | rfl | rfl
    all_goals
      simp only [Instruction.signer, Option.mem_def, Option.some.injEq] at hsigner
      subst hsigner
      exact Key.not_isProgramAddress_wallet _
  . simp only [batch, List.pairwise_cons, List.mem_cons, List.not_mem_nil, or_false, forall_eq_or_imp,
      forall_eq, List.Pairwise.nil, and_true, IsEmpty.forall_iff, implies_true]
    refine ⟨⟨⟨?_, ?_⟩, ⟨?_, ?_⟩⟩, ⟨?_, ?_⟩⟩ <;> decide
  . exact (List.reverse_perm batch).symm

end IronVault
