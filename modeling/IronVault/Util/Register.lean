import Mathlib.Data.List.Sort
import Mathlib.Data.List.Induction
import Mathlib.Data.List.Nodup
import Mathlib.Data.List.TakeWhile

/-!
This module contains a register that is kept by stamped writes. A write creates the register or
updates it, an update is dropped when the register does not exist or already has a position that is
not below the one of the update.
-/

namespace Register

variable {P V : Type}

inductive Op (V : Type) where
  | create (value : V)
  | update (f : V → V)

namespace Op

def isCreate : Op V → Bool
  | create _ => true
  | update _ => false

@[simp]
theorem isCreate_create (value : V) : (create value).isCreate = true := rfl

@[simp]
theorem isCreate_update (f : V → V) : (update f).isCreate = false := rfl

def apply : Op V → Option V → Option V
  | create value, none => some value
  | create _, some value => some value
  | update f, value => value.map f

end Op

def replay (ops : List (Op V)) : Option V :=
  ops.foldl (fun value op => op.apply value) none

@[simp]
theorem replay_nil : replay ([] : List (Op V)) = none := rfl

@[simp]
theorem replay_append (ops : List (Op V)) (op : Op V) :
    replay (ops ++ [op]) = op.apply (replay ops) := by
  simp [replay]

def Lifecycle (ops : List (Op V)) : Prop :=
  ops = [] ∨ ∃ value updates, ops = .create value :: updates ∧ ∀ op ∈ updates, op.isCreate = false

namespace Lifecycle

theorem replay_eq_none_iff {ops : List (Op V)} (h : Lifecycle ops) : replay ops = none ↔ ops = [] := by
  rcases h with rfl | ⟨value, updates, rfl, -⟩
  . simp
  . have hsome : ∀ v : V, (updates.foldl (fun value op => op.apply value) (some v)).isSome := by
      induction updates with
      | nil => simp
      | cons op updates ih =>
        intro v
        cases op with
        | create _ => exact ih v
        | update f => exact ih (f v)
    have := hsome value
    simp only [replay, List.foldl_cons, Op.apply, reduceCtorEq, iff_false]
    exact Option.isSome_iff_ne_none.mp this

theorem append {ops : List (Op V)} {op : Op V} (h : Lifecycle ops)
    (hop : op.isCreate = true ↔ replay ops = none) : Lifecycle (ops ++ [op]) := by
  rw [h.replay_eq_none_iff] at hop
  rcases h with rfl | ⟨value, updates, rfl, hupdates⟩
  . cases op with
    | create value => exact .inr ⟨value, [], rfl, by simp⟩
    | update f => simp at hop
  . refine .inr ⟨value, updates ++ [op], rfl, ?_⟩
    intro u hu
    cases List.mem_append.mp hu with
    | inl hu => exact hupdates u hu
    | inr hu =>
      rw [List.mem_singleton.mp hu]
      simpa using hop

end Lifecycle

structure Write (P V : Type) where
  pos : P
  op : Op V

structure Entry (P V : Type) where
  value : V
  last : P

section

variable [LinearOrder P]

def write (entry : Option (Entry P V)) (w : Write P V) : Option (Entry P V) :=
  match w.op, entry with
  | .create value, none => some ⟨value, w.pos⟩
  | .create _, some e => some e
  | .update _, none => none
  | .update f, some e => if e.last < w.pos then some ⟨f e.value, w.pos⟩ else some e

def run (ws : List (Write P V)) : Option (Entry P V) :=
  ws.foldl write none

@[simp]
theorem run_nil : run ([] : List (Write P V)) = none := rfl

@[simp]
theorem run_append (ws : List (Write P V)) (w : Write P V) : run (ws ++ [w]) = write (run ws) w := by
  simp [run]

theorem write_last {entry : Option (Entry P V)} {w : Write P V} {e : Entry P V}
    (h : write entry w = some e) : e.last = w.pos ∨ ∃ e', entry = some e' ∧ e'.last = e.last := by
  unfold write at h
  split at h
  . cases h
    exact .inl rfl
  . cases h
    exact .inr ⟨_, rfl, rfl⟩
  . contradiction
  . split at h
    . cases h
      exact .inl rfl
    . cases h
      exact .inr ⟨_, rfl, rfl⟩

theorem write_some (e : Entry P V) (w : Write P V) :
    ∃ e', write (some e) w = some e' ∧ e.last ≤ e'.last ∧
      (e'.value = e.value ∨ ∃ f, w.op = .update f ∧ e'.value = f e.value) := by
  unfold write
  cases w.op with
  | create value => exact ⟨e, rfl, le_refl _, .inl rfl⟩
  | update f =>
    dsimp only
    split
    . next hlt => exact ⟨⟨f e.value, w.pos⟩, rfl, le_of_lt hlt, .inr ⟨f, rfl, rfl⟩⟩
    . exact ⟨e, rfl, le_refl _, .inl rfl⟩

theorem last_mem {ws : List (Write P V)} {e : Entry P V} (h : run ws = some e) :
    ∃ w ∈ ws, w.pos = e.last := by
  induction ws using List.reverseRecOn generalizing e with
  | nil => simp at h
  | append_singleton ws w ih =>
    rw [run_append] at h
    cases write_last h with
    | inl hlast => exact ⟨w, by simp, hlast.symm⟩
    | inr hlast =>
      obtain ⟨e', he', hlast⟩ := hlast
      obtain ⟨w', hw', hpos⟩ := ih he'
      exact ⟨w', by simp [hw'], by rw [hpos, hlast]⟩

theorem write_value {entry : Option (Entry P V)} {w : Write P V}
    (h : ∀ e, entry = some e → e.last < w.pos) :
    (write entry w).map Entry.value = w.op.apply (entry.map Entry.value) := by
  unfold write
  split
  . next heq => simp [heq, Op.apply]
  . next heq => simp [heq, Op.apply]
  . next heq => simp [heq, Op.apply]
  . next heq =>
    rw [if_pos (h _ rfl)]
    simp [heq, Op.apply]

theorem run_of_pairwise {ws : List (Write P V)} (h : ws.Pairwise (fun w w' => w.pos < w'.pos)) :
    (run ws).map Entry.value = replay (ws.map Write.op) := by
  induction ws using List.reverseRecOn with
  | nil => rfl
  | append_singleton ws w ih =>
    rw [List.pairwise_append] at h
    obtain ⟨hws, -, hlt⟩ := h
    rw [run_append, List.map_append, List.map_cons, List.map_nil, replay_append, ← ih hws]
    apply write_value
    intro e he
    obtain ⟨w', hw', hpos⟩ := last_mem he
    rw [← hpos]
    exact hlt w' hw' w (by simp)

def sinceCreation (ws : List (Write P V)) : List (Write P V) :=
  ws.dropWhile (!·.op.isCreate)

/--
A write survives the order `ws` if it is the creation, or an update that comes after the creation
and after no higher update that also comes after the creation.
-/
def survives (ws : List (Write P V)) (w : Write P V) : Bool :=
  match sinceCreation (ws.takeWhile (·.pos ≠ w.pos)) with
  | [] => w.op.isCreate
  | _ :: since => since.all (·.pos < w.pos)

def survivors (ws : List (Write P V)) : List (Write P V) :=
  ws.filter (survives ws)

def CreationFirst (ws : List (Write P V)) : Prop :=
  ∀ c ∈ ws, c.op.isCreate → ∀ w ∈ ws, w.pos ≠ c.pos → c.pos < w.pos ∧ ¬ w.op.isCreate

theorem CreationFirst.of_lifecycle {ws : List (Write P V)}
    (hsorted : ws.Pairwise (fun w w' => w.pos < w'.pos)) (h : Lifecycle (ws.map Write.op)) :
    CreationFirst ws := by
  cases ws with
  | nil => intro c hc; simp at hc
  | cons w ws =>
    rw [List.pairwise_cons] at hsorted
    obtain ⟨hfirst, -⟩ := hsorted
    rcases h with h | ⟨value, updates, heq, hupdates⟩
    . simp at h
    rw [List.map_cons, List.cons.injEq] at heq
    have hnot : ∀ u ∈ ws, u.op.isCreate = false := by
      intro u hu
      apply hupdates
      rw [← heq.2]
      exact List.mem_map_of_mem hu
    intro c hc hcreate u hu hne
    cases List.mem_cons.mp hc with
    | inr hc => simp [hnot c hc] at hcreate
    | inl hc =>
      rw [hc] at hne ⊢
      cases List.mem_cons.mp hu with
      | inl hu => exact absurd (by rw [hu]) hne
      | inr hu => exact ⟨hfirst u hu, by simp [hnot u hu]⟩

omit [LinearOrder P] in
@[simp]
theorem sinceCreation_singleton (w : Write P V) :
    sinceCreation [w] = if w.op.isCreate then [w] else [] := by
  cases hop : w.op <;> simp [sinceCreation, hop]

omit [LinearOrder P] in
theorem sinceCreation_append (ws : List (Write P V)) (w : Write P V) :
    sinceCreation (ws ++ [w])
      = if (sinceCreation ws).isEmpty then sinceCreation [w] else sinceCreation ws ++ [w] := by
  unfold sinceCreation
  rw [List.dropWhile_append]

omit [LinearOrder P] in
theorem mem_of_sinceCreation {ws : List (Write P V)} {w : Write P V} (h : w ∈ sinceCreation ws) :
    w ∈ ws :=
  (List.dropWhile_sublist _).mem h

omit [LinearOrder P] in
theorem isCreate_of_sinceCreation {ws since : List (Write P V)} {c : Write P V}
    (h : sinceCreation ws = c :: since) : c.op.isCreate := by
  have hhead := List.head?_dropWhile_not (fun w : Write P V => !w.op.isCreate) ws
  unfold sinceCreation at h
  simpa [h] using hhead

theorem survives_append_of_mem {ws : List (Write P V)} {w u : Write P V} (hu : u ∈ ws) :
    survives (ws ++ [w]) u = survives ws u := by
  have hne : ¬ (ws.takeWhile (·.pos ≠ u.pos)).length = ws.length := by
    intro hlength
    have heq := (List.takeWhile_prefix _).eq_of_length hlength
    rw [List.takeWhile_eq_self_iff] at heq
    simpa using heq u hu
  unfold survives
  rw [List.takeWhile_append, if_neg hne]

theorem survives_last {ws : List (Write P V)} {w : Write P V} (hw : ∀ u ∈ ws, u.pos ≠ w.pos) :
    survives (ws ++ [w]) w
      = match sinceCreation ws with
        | [] => w.op.isCreate
        | _ :: since => since.all (·.pos < w.pos) := by
  unfold survives
  rw [List.takeWhile_append_of_pos (by simpa using hw)]
  simp

theorem survivors_append {ws : List (Write P V)} {w : Write P V} :
    survivors (ws ++ [w])
      = survivors ws ++ if survives (ws ++ [w]) w then [w] else [] := by
  unfold survivors
  rw [List.filter_append]
  congr 1
  . apply List.filter_congr
    intro u hu
    exact survives_append_of_mem hu
  . rw [List.filter_singleton]
    cases survives (ws ++ [w]) w <;> rfl

section

variable {ws : List (Write P V)} {w : Write P V}

theorem CreationFirst.of_append (h : CreationFirst (ws ++ [w])) : CreationFirst ws := by
  intro c hc hcreate u hu
  exact h c (by simp [hc]) hcreate u (by simp [hu])

theorem last_isGreatest (hdistinct : ws.Pairwise (fun w w' => w.pos ≠ w'.pos))
    (hfirst : CreationFirst ws) :
    match run ws with
    | none => sinceCreation ws = []
    | some e => (∃ w ∈ sinceCreation ws, w.pos = e.last) ∧ ∀ w ∈ sinceCreation ws, w.pos ≤ e.last := by
  induction ws using List.reverseRecOn with
  | nil => simp [sinceCreation]
  | append_singleton ws w ih =>
    rw [List.pairwise_append] at hdistinct
    obtain ⟨hws, -, hne⟩ := hdistinct
    specialize ih hws hfirst.of_append
    rw [run_append, sinceCreation_append]
    cases hrun : run ws with
    | none =>
      rw [hrun] at ih
      dsimp only at ih
      cases hop : w.op with
      | create value => simp [write, hop, ih]
      | update f => simp [write, hop, ih]
    | some e =>
      rw [hrun] at ih
      obtain ⟨⟨w', hw', hlast⟩, hmax⟩ := ih
      have hempty : (sinceCreation ws).isEmpty = false := by
        simpa using List.ne_nil_of_mem hw'
      cases hop : w.op with
      | create value =>
        obtain ⟨c, since, hsince⟩ := List.exists_cons_of_ne_nil (List.ne_nil_of_mem hw')
        have hc : c ∈ ws := mem_of_sinceCreation (by simp [hsince])
        have hcreate := hfirst c (by simp [hc]) (isCreate_of_sinceCreation hsince) w (by simp)
          (hne c hc w (by simp)).symm
        simp [hop] at hcreate
      | update f =>
        by_cases hlt : e.last < w.pos
        . simp only [write, hop, hempty, if_pos hlt]
          refine ⟨⟨w, by simp, rfl⟩, ?_⟩
          intro u hu
          simp only [Bool.false_eq_true, if_false, List.mem_append, List.mem_singleton] at hu
          cases hu with
          | inl hu => exact le_trans (hmax u hu) (le_of_lt hlt)
          | inr hu => rw [hu]
        . simp only [write, hop, hempty, if_neg hlt]
          refine ⟨⟨w', by simp [hw'], hlast⟩, ?_⟩
          intro u hu
          simp only [Bool.false_eq_true, if_false, List.mem_append, List.mem_singleton] at hu
          cases hu with
          | inl hu => exact hmax u hu
          | inr hu =>
            rw [hu]
            exact not_lt.mp hlt

theorem write_survives (hdistinct : (ws ++ [w]).Pairwise (fun w w' => w.pos ≠ w'.pos))
    (hfirst : CreationFirst (ws ++ [w])) :
    (write (run ws) w).map Entry.value
      = if survives (ws ++ [w]) w then w.op.apply ((run ws).map Entry.value)
        else (run ws).map Entry.value := by
  -- The last write is dropped exactly when it does not survive.
  rw [List.pairwise_append] at hdistinct
  obtain ⟨hws, -, hne⟩ := hdistinct
  have hgreatest := last_isGreatest hws hfirst.of_append
  rw [survives_last (fun u hu => hne u hu w (by simp))]
  cases hrun : run ws with
  | none =>
    rw [hrun] at hgreatest
    dsimp only at hgreatest
    cases hop : w.op with
    | create value => simp [hgreatest, write, hop, Op.apply]
    | update f => simp [hgreatest, write, hop]
  | some e =>
    rw [hrun] at hgreatest
    obtain ⟨⟨w', hw', hlast⟩, hmax⟩ := hgreatest
    obtain ⟨c, since, hsince⟩ := List.exists_cons_of_ne_nil (List.ne_nil_of_mem hw')
    have hc : c ∈ ws := mem_of_sinceCreation (by simp [hsince])
    have hcreate := hfirst c (by simp [hc]) (isCreate_of_sinceCreation hsince) w (by simp)
      (hne c hc w (by simp)).symm
    rw [hsince] at hw' hmax
    rw [hsince]
    -- the guard compares with the highest position, which bounds all writes since the creation
    have hguard : e.last < w.pos ↔ since.all (·.pos < w.pos) := by
      simp only [List.all_eq_true, decide_eq_true_eq]
      constructor
      . intro hlt u hu
        exact lt_of_le_of_lt (hmax u (by simp [hu])) hlt
      . intro hall
        rw [← hlast]
        cases List.mem_cons.mp hw' with
        | inl heq =>
          rw [heq]
          exact hcreate.1
        | inr hmem => exact hall w' hmem
    cases hop : w.op with
    | create value => simp [hop] at hcreate
    | update f =>
      simp only [write, hop, ← hguard]
      split <;> simp [Op.apply]

theorem run_eq_replay_survivors (hdistinct : ws.Pairwise (fun w w' => w.pos ≠ w'.pos))
    (hfirst : CreationFirst ws) :
    (run ws).map Entry.value = replay ((survivors ws).map Write.op) := by
  -- The induction adds the last write, which is dropped or applied to what the survivors left.
  induction ws using List.reverseRecOn with
  | nil => rfl
  | append_singleton ws w ih =>
    have hws := (List.pairwise_append.mp hdistinct).1
    rw [run_append, write_survives hdistinct hfirst, survivors_append, ih hws hfirst.of_append]
    split <;> simp

theorem mem_sinceCreation_of_survives (hdistinct : ws.Pairwise (fun w w' => w.pos ≠ w'.pos))
    (hw : w ∈ survivors ws) : w ∈ sinceCreation ws := by
  induction ws using List.reverseRecOn with
  | nil => simp [survivors] at hw
  | append_singleton ws u ih =>
    rw [List.pairwise_append] at hdistinct
    obtain ⟨hws, -, hne⟩ := hdistinct
    rw [survivors_append, List.mem_append] at hw
    rw [sinceCreation_append]
    cases hw with
    | inl hw =>
      have hmem := ih hws hw
      have hempty : (sinceCreation ws).isEmpty = false := by
        simpa using List.ne_nil_of_mem hmem
      simp [hempty, hmem]
    | inr hw =>
      split at hw
      . next hsurvives =>
        rw [survives_last (fun v hv => hne v hv u (by simp))] at hsurvives
        rw [List.mem_singleton] at hw
        rw [hw]
        cases hsince : sinceCreation ws with
        | nil =>
          rw [hsince] at hsurvives
          simp [hsurvives]
        | cons c since => simp
      . simp at hw

theorem survivors_pairwise (hdistinct : ws.Pairwise (fun w w' => w.pos ≠ w'.pos))
    (hfirst : CreationFirst ws) : (survivors ws).Pairwise (fun w w' => w.pos < w'.pos) := by
  induction ws using List.reverseRecOn with
  | nil => simp [survivors]
  | append_singleton ws w ih =>
    rw [List.pairwise_append] at hdistinct
    obtain ⟨hws, -, hne⟩ := hdistinct
    rw [survivors_append, List.pairwise_append]
    refine ⟨ih hws hfirst.of_append, ?_, ?_⟩
    . split <;> simp
    . intro u hu v hv
      split at hv
      . next hsurvives =>
        rw [List.mem_singleton] at hv
        rw [hv]
        rw [survives_last (fun u hu => hne u hu w (by simp))] at hsurvives
        have hmem := mem_sinceCreation_of_survives hws hu
        obtain ⟨c, since, hsince⟩ := List.exists_cons_of_ne_nil (List.ne_nil_of_mem hmem)
        have hc : c ∈ ws := mem_of_sinceCreation (by simp [hsince])
        rw [hsince] at hmem hsurvives
        cases List.mem_cons.mp hmem with
        | inl heq =>
          rw [heq]
          apply (hfirst c (by simp [hc]) (isCreate_of_sinceCreation hsince) w (by simp) _).1
          exact (hne c hc w (by simp)).symm
        | inr hmem =>
          rw [List.all_eq_true] at hsurvives
          simpa using hsurvives u hmem
      . simp at hv

theorem run_of_perm {cs : List (Write P V)} (hperm : ws.Perm cs)
    (hsorted : cs.Pairwise (fun w w' => w.pos < w'.pos)) (hfirst : CreationFirst cs) :
    (run ws).map Entry.value = replay ((cs.filter (survives ws)).map Write.op) := by
  have hdistinct : ws.Pairwise (fun w w' => w.pos ≠ w'.pos) := by
    have hcs : cs.Pairwise (fun w w' => w.pos ≠ w'.pos) := hsorted.imp ne_of_lt
    exact (hperm.pairwise_iff Ne.symm).mpr hcs
  have hfirst' : CreationFirst ws := by
    intro c hc hcreate w hw
    exact hfirst c (hperm.mem_iff.mp hc) hcreate w (hperm.mem_iff.mp hw)
  have heq : survivors ws = cs.filter (survives ws) := by
    have hlt := survivors_pairwise hdistinct hfirst'
    apply (hperm.filter (survives ws)).eq_of_pairwise _ hlt (hsorted.filter _)
    intro u v _ _ huv hvu
    exact absurd hvu (lt_asymm huv)
  rw [run_eq_replay_survivors hdistinct hfirst', heq]

end

end

end Register
