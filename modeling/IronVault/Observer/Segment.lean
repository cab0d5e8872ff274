import IronVault.Observer.Lemmas.Rpc

/-!
This module contains what the paging loop of `reconcile` collects: a segment of the history that
ends with its newest transaction and begins with the page of the checkpoint.
-/

namespace IronVault.Observer

variable {checkpoint before : Option String} {history older : List FinalizedTransaction}
  {batches : List (List FinalizedTransaction)} {signatures : List SignatureInfo}

theorem Unread.collectSignatures_terminates (h : Unread history before older)
    (hdistinct : DistinctSignatures (history ++ batches.flatten))
    (hlen : older.length / signaturesLimit ≤ batches.length) :
    ∃ signatures, collectSignatures checkpoint history before batches = some signatures := by
  -- every request that the loop goes on after has read a full page of `older`
  induction batches generalizing history before older with
  | nil =>
    apply h.collectSignatures_of_stop hdistinct.left
    right
    unfold signaturesLimit at hlen ⊢
    rw [List.length_nil] at hlen
    omega
  | cons batch batches ih =>
    by_cases hstop : (older.reverse.take signaturesLimit).any (some ·.signature = checkpoint)
        ∨ older.length < signaturesLimit
    . exact h.collectSignatures_of_stop hdistinct.left hstop
    . have hdistinct' := hdistinct
      rw [List.flatten_cons, ← List.append_assoc] at hdistinct'
      have hfull : signaturesLimit ≤ older.length := by
        rw [not_or] at hstop
        omega
      have hrest : (older.reverse.drop signaturesLimit).reverse.length / signaturesLimit
          ≤ batches.length := by
        rw [List.length_reverse, List.length_drop, List.length_reverse]
        unfold signaturesLimit at hlen hfull ⊢
        rw [List.length_cons] at hlen
        omega
      obtain ⟨rest, hcollect⟩ := ih (h.next hfull) hdistinct' hrest
      rw [← stops_iff] at hstop
      unfold collectSignatures
      dsimp only
      rw [h.page hdistinct.left, if_neg hstop, hcollect]
      exact ⟨_, rfl⟩

/--
The page of the checkpoint. The pages that are read before it are full, and it is full itself unless
the history begins with it.
-/
structure CheckpointPage (checkpoint : Option String) (older page newer : List FinalizedTransaction) :
    Prop where
  checkpoint_mem : ∃ tx ∈ page, some tx.signature = checkpoint
  newer_pages : signaturesLimit ∣ newer.length
  length_le : page.length ≤ signaturesLimit
  full : older ≠ [] → page.length = signaturesLimit

theorem reconciled_of_not_mem (h : ∀ tx ∈ history, some tx.signature ≠ checkpoint) :
    (reconciled checkpoint history).reverse = history := by
  have hany : history.reverse.any (some ·.signature = checkpoint) = false := by
    rw [List.any_eq_false]
    intro tx htx
    simpa using h tx (List.mem_reverse.mp htx)
  unfold reconciled
  rw [Paging.reach_of_not_any hany, List.take_length, List.reverse_reverse]

theorem reconciled_of_mem (h : ∃ tx ∈ history, some tx.signature = checkpoint) :
    ∃ older page newer, history = older ++ (page ++ newer) ∧
      (reconciled checkpoint history).reverse = page ++ newer ∧
      CheckpointPage checkpoint older page newer := by
  have hany : history.reverse.any (some ·.signature = checkpoint) := by
    obtain ⟨tx, htx, heq⟩ := h
    rw [List.any_eq_true]
    exact ⟨tx, List.mem_reverse.mpr htx, by simpa using heq⟩
  obtain ⟨read, page, unread, hhistory, hread, hpage⟩ :=
    Paging.lastPage_of_any (show 0 < signaturesLimit by decide) hany
  refine ⟨unread.reverse, page.reverse, read.reverse, ?_, ?_, ?_, ?_, ?_, ?_⟩
  . rw [← List.reverse_append, ← List.reverse_append, ← hhistory, List.reverse_reverse]
  . unfold reconciled
    rw [hread, List.reverse_append]
  . obtain ⟨tx, htx, heq⟩ := List.any_eq_true.mp hpage.any
    exact ⟨tx, List.mem_reverse.mpr htx, by simpa using heq⟩
  . rw [List.length_reverse]
    exact hpage.read_length
  . rw [List.length_reverse]
    exact hpage.length_le
  . intro hne
    rw [List.length_reverse]
    apply hpage.full
    simpa using hne

theorem reconciled_nodup (hdistinct : DistinctSignatures history) :
    ((reconciled checkpoint history).map FinalizedTransaction.signature).Nodup := by
  unfold reconciled
  rw [List.Nodup, List.pairwise_map]
  apply List.Pairwise.sublist (List.take_sublist _ _)
  rw [List.pairwise_reverse]
  exact hdistinct.imp Ne.symm

theorem mem_reconciled_of_newer {front back : List FinalizedTransaction}
    {tx tx' : FinalizedTransaction} (hdistinct : DistinctSignatures history)
    (hhistory : history = front ++ tx :: back) (hcheckpoint : checkpoint = some tx.signature)
    (htx' : tx' ∈ back) : tx' ∈ (reconciled checkpoint history).reverse := by
  obtain ⟨older, page, newer, heq, hread, hpage⟩ := reconciled_of_mem
    (show ∃ tx ∈ history, some tx.signature = checkpoint from ⟨tx, by simp [hhistory], hcheckpoint.symm⟩)
  rw [hread]
  rw [heq] at hdistinct
  rw [heq, List.append_eq_append_iff] at hhistory
  rcases hhistory with ⟨between, -, hafter⟩ | ⟨between, holder, hafter⟩
  . rw [hafter]
    simp [htx']
  . cases between with
    | nil =>
      rw [List.nil_append] at hafter
      rw [← hafter]
      exact List.mem_cons_of_mem tx htx'
    | cons first between =>
      -- the checkpoint would be older than the page that has it
      obtain ⟨tx'', htx'', hsignature⟩ := hpage.checkpoint_mem
      rw [List.cons_append, List.cons.injEq] at hafter
      obtain ⟨rfl, -⟩ := hafter
      rw [hcheckpoint, Option.some.injEq] at hsignature
      have hne := (List.pairwise_append.mp hdistinct).2.2 tx (by simp [holder]) tx''
        (List.mem_append_left newer htx'')
      exact absurd hsignature.symm hne

theorem collectSignatures_segment (hdistinct : DistinctSignatures (history ++ batches.flatten))
    (hcollect : collectSignatures checkpoint history none batches = some signatures) :
    signatures.reverse
      = ((reconciled checkpoint history).reverse.filter (!·.err)).map FinalizedTransaction.info := by
  rw [(unread_all history).collectSignatures_eq hdistinct hcollect, List.filter_reverse,
    List.map_reverse]

/--
`reconcile` pages through a contiguous segment of the history, each transaction of it once, whatever
is finalized between the requests.
-/
theorem reconcile_collects_segment
    (hdistinct : DistinctSignatures (history ++ batches.flatten)) :
    (history.length / signaturesLimit ≤ batches.length →
      ∃ signatures, collectSignatures checkpoint history none batches = some signatures) ∧
    ∀ signatures, collectSignatures checkpoint history none batches = some signatures →
      (∃ older segment, history = older ++ segment ∧
        signatures.reverse = (segment.filter (!·.err)).map FinalizedTransaction.info ∧
        ((∀ tx ∈ history, some tx.signature ≠ checkpoint) → older = []) ∧
        ((∃ tx ∈ history, some tx.signature = checkpoint) → ∃ page newer,
          segment = page ++ newer ∧ CheckpointPage checkpoint older page newer)) ∧
      (signatures.map SignatureInfo.signature).Nodup ∧
      ∀ front tx back, history = front ++ tx :: back → checkpoint = some tx.signature →
        ∀ tx' ∈ back, tx'.err = false → tx'.info ∈ signatures := by
  refine ⟨(unread_all history).collectSignatures_terminates hdistinct, ?_⟩
  intro signatures hcollect
  have hsegment := collectSignatures_segment hdistinct hcollect
  refine ⟨?_, ?_, ?_⟩
  . by_cases hmem : ∃ tx ∈ history, some tx.signature = checkpoint
    . obtain ⟨older, page, newer, hhistory, hread, hpage⟩ := reconciled_of_mem hmem
      refine ⟨older, page ++ newer, hhistory, ?_, ?_, fun _ => ⟨page, newer, rfl, hpage⟩⟩
      . rw [hsegment, hread]
      . intro hnone
        obtain ⟨tx, htx, heq⟩ := hmem
        exact absurd heq (hnone tx htx)
    . have hnone : ∀ tx ∈ history, some tx.signature ≠ checkpoint := by simpa using hmem
      refine ⟨[], history, rfl, ?_, fun _ => rfl, fun h => absurd h hmem⟩
      rw [hsegment, reconciled_of_not_mem hnone]
  . rw [← List.nodup_reverse, ← List.map_reverse, hsegment, List.map_map]
    apply List.Nodup.sublist (List.filter_sublist.map _)
    rw [List.map_reverse, List.nodup_reverse]
    exact reconciled_nodup hdistinct.left
  . intro front tx back hhistory hcheckpoint tx' htx' herr
    rw [← List.mem_reverse, hsegment, List.mem_map]
    refine ⟨tx', ?_, rfl⟩
    rw [List.mem_filter]
    exact ⟨mem_reconciled_of_newer hdistinct.left hhistory hcheckpoint htx', by simp [herr]⟩

end IronVault.Observer

namespace IronVault.Scenario

open Observer

def unary (n : Nat) : String :=
  String.ofList (.replicate n '1')

theorem unary_injective : Function.Injective unary := by
  intro n m heq
  have hlist : List.replicate n '1' = List.replicate m '1' := String.ofList_injective heq
  simpa using congrArg List.length hlist

/--
Every second transaction has failed.
-/
def signed (n : Nat) : FinalizedTransaction :=
  ⟨unary n, 5, none, n % 2 = 1, []⟩

theorem distinctSignatures_signed (n : Nat) : DistinctSignatures ((List.range n).map signed) := by
  unfold DistinctSignatures
  rw [List.pairwise_map]
  exact List.nodup_range.imp fun hne heq => hne (unary_injective heq)

-- The checkpoint is on the second page, and another transaction is finalized before it is requested.
theorem segment_from_checkpoint :
    DistinctSignatures ((List.range 1500).map signed ++ [[signed 1500]].flatten) ∧
    ∃ signatures,
      collectSignatures (some (unary 0)) ((List.range 1500).map signed) none [[signed 1500]]
        = some signatures ∧
      (signatures.map SignatureInfo.signature).Nodup ∧ ⟨unary 2, false⟩ ∈ signatures ∧
      ⟨unary 1498, false⟩ ∈ signatures := by
  have hdistinct : DistinctSignatures ((List.range 1500).map signed ++ [[signed 1500]].flatten) := by
    have h := distinctSignatures_signed (1500 + 1)
    rw [List.range_succ, List.map_append] at h
    exact h
  refine ⟨hdistinct, ?_⟩
  have hsegment := @reconcile_collects_segment (some (unary 0)) _ _ hdistinct
  have hpages : ((List.range 1500).map signed).length / signaturesLimit ≤ 1 := by
    rw [List.length_map, List.length_range]
    decide
  obtain ⟨signatures, hcollect⟩ := hsegment.1 hpages
  obtain ⟨-, hnodup, hnewer⟩ := hsegment.2 signatures hcollect
  have hhistory : (List.range 1500).map signed
      = [] ++ signed 0 :: (List.range' 1 1499).map signed := by
    rw [List.range_eq_range', List.range'_succ]
    rfl
  have hcollected (n : Nat) (hpos : 0 < n) (hlt : n < 1500) (heven : n % 2 = 0) :
      ⟨unary n, false⟩ ∈ signatures := by
    have hmem : signed n ∈ (List.range' 1 1499).map signed := by
      apply List.mem_map_of_mem
      rw [List.mem_range'_1]
      omega
    have hinfo := hnewer [] (signed 0) _ hhistory rfl (signed n) hmem (by simp [signed, heven])
    simpa [FinalizedTransaction.info, signed, heven] using hinfo
  exact ⟨signatures, hcollect, hnodup, hcollected 2 (by decide) (by decide) rfl,
    hcollected 1498 (by decide) (by decide) rfl⟩

end IronVault.Scenario
