import IronVault.Util.Paging
import IronVault.Observer.Lemmas.Chain

/-!
This module contains what a call of `reconcile` reads. The paging loop reads the history from its
newest transaction back to the page with the checkpoint, whatever is finalized meanwhile.
-/

namespace IronVault.Observer

variable {Pubkey : Type}

def FinalizedTransaction.info (tx : FinalizedTransaction) : SignatureInfo :=
  ⟨tx.signature, tx.err⟩

def reconciled (checkpoint : Option String) (history : List FinalizedTransaction) :
    List FinalizedTransaction :=
  history.reverse.take
    (Paging.reach signaturesLimit (fun tx => some tx.signature = checkpoint) history.reverse)

theorem DistinctSignatures.eq_of_signature_eq {history : List FinalizedTransaction}
    (h : DistinctSignatures history) {tx tx' : FinalizedTransaction} (htx : tx ∈ history)
    (htx' : tx' ∈ history) (heq : tx.signature = tx'.signature) : tx = tx' := by
  have hnodup : (history.map FinalizedTransaction.signature).Nodup := by
    unfold List.Nodup
    rw [List.pairwise_map]
    exact h
  exact List.inj_on_of_nodup_map hnodup htx htx' heq

theorem DistinctSignatures.left {history batch : List FinalizedTransaction}
    (h : DistinctSignatures (history ++ batch)) : DistinctSignatures history :=
  (List.pairwise_append.mp h).1

/--
The transactions of the history that were not read yet, when the next page ends at `before`.
-/
def Unread (history : List FinalizedTransaction) (before : Option String)
    (older : List FinalizedTransaction) : Prop :=
  ∃ newer, history = older ++ newer ∧ before = newer.head?.map FinalizedTransaction.signature

theorem unread_all (history : List FinalizedTransaction) : Unread history none history :=
  ⟨[], by simp, rfl⟩

theorem Unread.page {history older : List FinalizedTransaction} {before : Option String}
    (h : Unread history before older) (hdistinct : DistinctSignatures history) :
    getSignaturesForAddress history before
      = (older.reverse.take signaturesLimit).map FinalizedTransaction.info := by
  obtain ⟨newer, rfl, rfl⟩ := h
  unfold getSignaturesForAddress
  rw [List.map_take]
  cases newer with
  | nil =>
    rw [List.append_nil]
    rfl
  | cons tx newer =>
    -- the signatures after `tx` differ from its own one, so they are dropped with it
    have hne : ∀ tx' ∈ newer, tx'.signature ≠ tx.signature := by
      intro tx' htx'
      have hpair := (List.pairwise_append.mp hdistinct).2.1
      exact ((List.pairwise_cons.mp hpair).1 tx' htx').symm
    simp only [List.head?_cons, Option.map_some, List.reverse_append, List.reverse_cons,
      List.append_assoc, List.map_append, List.map_cons, List.map_nil]
    rw [List.dropWhile_append_of_pos]
    . simp only [List.cons_append, List.nil_append, ne_eq, not_true_eq_false, decide_false,
        Bool.false_eq_true, not_false_eq_true, List.dropWhile_cons_of_neg, List.tail_cons]
      rfl
    . intro info hinfo
      rw [List.mem_map] at hinfo
      obtain ⟨tx', htx', rfl⟩ := hinfo
      simpa using hne tx' (List.mem_reverse.mp htx')

theorem Unread.next {history older batch : List FinalizedTransaction} {before : Option String}
    (h : Unread history before older) (hlen : signaturesLimit ≤ older.length) :
    Unread (history ++ batch)
      (((older.reverse.take signaturesLimit).map FinalizedTransaction.info).getLast?.map
        SignatureInfo.signature)
      (older.reverse.drop signaturesLimit).reverse := by
  obtain ⟨newer, rfl, -⟩ := h
  refine ⟨(older.reverse.take signaturesLimit).reverse ++ newer ++ batch, ?_, ?_⟩
  . rw [← List.append_assoc, ← List.append_assoc, ← List.reverse_append, List.take_append_drop,
      List.reverse_reverse]
  . have hne : older.reverse.take signaturesLimit ≠ [] := by
      rw [← List.length_pos_iff, List.length_take, List.length_reverse]
      unfold signaturesLimit at hlen ⊢
      omega
    rw [List.append_assoc, List.head?_append_of_ne_nil _ (by simpa using hne), List.head?_reverse,
      List.getLast?_map, Option.map_map]
    rfl

section

variable {checkpoint : Option String} {older : List FinalizedTransaction}

theorem reconciled_of_stop
    (h : (older.reverse.take signaturesLimit).any (some ·.signature = checkpoint)
      ∨ older.length < signaturesLimit) :
    reconciled checkpoint older = older.reverse.take signaturesLimit := by
  unfold reconciled
  by_cases hany : (older.reverse.take signaturesLimit).any (some ·.signature = checkpoint)
  . rw [Paging.reach_of_any hany]
  . have hlen := h.resolve_left hany
    have htake : older.reverse.take signaturesLimit = older.reverse := by
      apply List.take_of_length_le
      rw [List.length_reverse]
      omega
    rw [Bool.not_eq_true, htake] at hany
    rw [Paging.reach_of_not_any hany, List.take_length, htake]

theorem reconciled_of_continue
    (h : (older.reverse.take signaturesLimit).any (some ·.signature = checkpoint) = false)
    (hlen : signaturesLimit ≤ older.length) :
    reconciled checkpoint older
      = older.reverse.take signaturesLimit
        ++ reconciled checkpoint (older.reverse.drop signaturesLimit).reverse := by
  have hpage : (older.reverse.take signaturesLimit).length = signaturesLimit := by
    rw [List.length_take, List.length_reverse]
    omega
  unfold reconciled
  rw [List.reverse_reverse]
  conv =>
    lhs
    rw [← List.take_append_drop signaturesLimit older.reverse,
      Paging.reach_append hpage (by decide) h]
  rw [List.take_append, hpage, Nat.add_sub_cancel_left, List.take_of_length_le (by omega)]

theorem stops_iff :
    (((older.reverse.take signaturesLimit).map FinalizedTransaction.info).any
        (some ·.signature = checkpoint)
      || ((older.reverse.take signaturesLimit).map FinalizedTransaction.info).length
        < signaturesLimit) = true ↔
    (older.reverse.take signaturesLimit).any (some ·.signature = checkpoint)
      ∨ older.length < signaturesLimit := by
  rw [Bool.or_eq_true, List.any_map, List.length_map, List.length_take, List.length_reverse,
    decide_eq_true_iff]
  apply or_congr Iff.rfl
  omega

end

section

variable {checkpoint before : Option String} {history older : List FinalizedTransaction}
  {batches : List (List FinalizedTransaction)} {signatures : List SignatureInfo}

theorem Unread.collectSignatures_cases (h : Unread history before older)
    (hdistinct : DistinctSignatures history)
    (hcollect : collectSignatures checkpoint history before batches = some signatures) :
    (((older.reverse.take signaturesLimit).any (some ·.signature = checkpoint)
        ∨ older.length < signaturesLimit) ∧
      signatures = ((older.reverse.take signaturesLimit).filter (!·.err)).map
        FinalizedTransaction.info) ∨
    ((older.reverse.take signaturesLimit).any (some ·.signature = checkpoint) = false ∧
      signaturesLimit ≤ older.length ∧ ∃ batch next rest, batches = batch :: next ∧
        collectSignatures checkpoint (history ++ batch)
          (((older.reverse.take signaturesLimit).map FinalizedTransaction.info).getLast?.map
            SignatureInfo.signature) next = some rest ∧
        signatures = ((older.reverse.take signaturesLimit).filter (!·.err)).map
          FinalizedTransaction.info ++ rest) := by
  -- The loop stops at this page, or it goes on with the next one.
  unfold collectSignatures at hcollect
  dsimp only at hcollect
  rw [h.page hdistinct, List.filter_map] at hcollect
  split at hcollect
  . next hstop =>
    left
    rw [Option.some.injEq] at hcollect
    exact ⟨stops_iff.mp hstop, hcollect.symm⟩
  . next hcontinue =>
    right
    rw [stops_iff, not_or, Bool.not_eq_true, Nat.not_lt] at hcontinue
    refine ⟨hcontinue.1, hcontinue.2, ?_⟩
    cases batches with
    | nil => simp at hcollect
    | cons batch next =>
      dsimp only at hcollect
      rw [Option.map_eq_some_iff] at hcollect
      obtain ⟨rest, hrest, hcollect⟩ := hcollect
      exact ⟨batch, next, rest, rfl, hrest, hcollect.symm⟩

theorem Unread.collectSignatures_of_stop (h : Unread history before older)
    (hdistinct : DistinctSignatures history)
    (hstop : (older.reverse.take signaturesLimit).any (some ·.signature = checkpoint)
      ∨ older.length < signaturesLimit) :
    ∃ signatures, collectSignatures checkpoint history before batches = some signatures := by
  unfold collectSignatures
  dsimp only
  rw [h.page hdistinct, if_pos (stops_iff.mpr hstop)]
  exact ⟨_, rfl⟩

theorem Unread.collectSignatures_eq (h : Unread history before older)
    (hdistinct : DistinctSignatures (history ++ batches.flatten))
    (hcollect : collectSignatures checkpoint history before batches = some signatures) :
    signatures = ((reconciled checkpoint older).filter (!·.err)).map FinalizedTransaction.info := by
  -- the induction follows the requests, `older` is what the next ones have still to read
  induction batches generalizing history before older signatures with
  | nil =>
    rcases h.collectSignatures_cases hdistinct.left hcollect with ⟨hstop, heq⟩ | ⟨-, -, hnext⟩
    . rw [heq, reconciled_of_stop hstop]
    . simp at hnext
  | cons batch batches ih =>
    rcases h.collectSignatures_cases hdistinct.left hcollect with
      ⟨hstop, heq⟩ | ⟨hany, hlen, _, _, rest, hbatches, hrest, heq⟩
    . rw [heq, reconciled_of_stop hstop]
    . rw [List.cons.injEq] at hbatches
      obtain ⟨rfl, rfl⟩ := hbatches
      rw [List.flatten_cons, ← List.append_assoc] at hdistinct
      rw [heq, ih (h.next hlen) hdistinct hrest, reconciled_of_continue hany hlen,
        List.filter_append, List.map_append]

end

section

variable {settings : ObserverSettings Pubkey}

theorem transactionEvents_eq {history : List FinalizedTransaction} {tx : FinalizedTransaction}
    (hdistinct : DistinctSignatures history) (htx : tx ∈ history) :
    settings.transactionEvents history tx.signature
      = if tx.err then [] else tx.events settings := by
  have hfind : history.find? (·.signature = tx.signature) = some tx := by
    obtain ⟨found, hfound⟩ : ∃ found, history.find? (·.signature = tx.signature) = some found := by
      rw [← Option.isSome_iff_exists, List.find?_isSome]
      exact ⟨tx, htx, by simp⟩
    have heq : found.signature = tx.signature := by
      simpa using List.find?_some hfound
    rw [hfound, hdistinct.eq_of_signature_eq (List.mem_of_find?_eq_some hfound) htx heq]
  unfold ObserverSettings.transactionEvents getTransaction
  rw [hfind]
  rfl

theorem reconcileEvents_of_stop {checkpoint : Option String} {history : List FinalizedTransaction}
    {batches : List (List FinalizedTransaction)} (hdistinct : DistinctSignatures history)
    (hstop : (history.reverse.take signaturesLimit).any (some ·.signature = checkpoint)
      ∨ history.length < signaturesLimit) :
    ∃ events, settings.reconcileEvents checkpoint history batches = some events := by
  obtain ⟨signatures, hcollect⟩ := (unread_all history).collectSignatures_of_stop hdistinct hstop
  unfold ObserverSettings.reconcileEvents
  rw [hcollect]
  exact ⟨_, rfl⟩

theorem mem_reconcileEvents {checkpoint : Option String} {history : List FinalizedTransaction}
    {batches : List (List FinalizedTransaction)} {events : List (ObservedEvent Pubkey)}
    (hdistinct : DistinctSignatures (history ++ batches.flatten))
    (hevents : settings.reconcileEvents checkpoint history batches = some events)
    {observed : ObservedEvent Pubkey} :
    observed ∈ events ↔
      ∃ tx ∈ reconciled checkpoint history, tx.err = false ∧ observed ∈ tx.events settings := by
  unfold ObserverSettings.reconcileEvents at hevents
  rw [Option.map_eq_some_iff] at hevents
  obtain ⟨signatures, hcollect, rfl⟩ := hevents
  rw [(unread_all history).collectSignatures_eq hdistinct hcollect]
  have hmem {tx : FinalizedTransaction} (htx : tx ∈ reconciled checkpoint history) :
      tx ∈ history ++ batches.flatten := by
    apply List.mem_append_left
    exact List.mem_reverse.mp (List.mem_of_mem_take htx)
  simp only [List.mem_flatMap, List.mem_reverse, List.mem_map, List.mem_filter,
    Bool.not_eq_eq_eq_not, Bool.not_true, exists_exists_and_eq_and]
  constructor
  . rintro ⟨tx, ⟨htx, herr⟩, hobserved⟩
    rw [FinalizedTransaction.info, transactionEvents_eq hdistinct (hmem htx), herr] at hobserved
    exact ⟨tx, htx, herr, by simpa using hobserved⟩
  . rintro ⟨tx, htx, herr, hobserved⟩
    refine ⟨tx, ⟨htx, herr⟩, ?_⟩
    rw [FinalizedTransaction.info, transactionEvents_eq hdistinct (hmem htx), herr]
    simpa using hobserved

end

end IronVault.Observer
