import Mathlib.Algebra.Order.Ring.Int

/-!
This module contains how far a reader gets that reads a list in pages and stops after the first page
with an element it looks for.
-/

namespace Paging

variable {α : Type} (limit : Nat) (p : α → Bool)

/--
The length of the pages up to the one with the first element that satisfies `p`.
-/
def reach (xs : List α) : Nat :=
  match xs.findIdx? p with
  | some i => limit * (i / limit + 1)
  | none => xs.length

variable {limit} {p} {xs : List α}

theorem reach_of_any (h : (xs.take limit).any p) : reach limit p xs = limit := by
  rw [← List.findIdx?_isSome, Option.isSome_iff_exists] at h
  obtain ⟨i, hi⟩ := h
  have hlt : i < limit := by
    have hlen := (List.findIdx?_eq_some_iff_findIdx_eq.mp hi).1
    rw [List.length_take] at hlen
    omega
  have hfind : xs.findIdx? p = some i :=
    (List.take_prefix limit xs).findIdx?_eq_some hi
  unfold reach
  rw [hfind]
  simp [Nat.div_eq_of_lt hlt]

theorem reach_of_not_any (h : xs.any p = false) : reach limit p xs = xs.length := by
  have hfind : xs.findIdx? p = none := by
    rw [← Option.isNone_iff_eq_none, List.findIdx?_isNone]
    simpa using h
  unfold reach
  rw [hfind]

theorem reach_append {page : List α} (hlen : page.length = limit) (hlimit : 0 < limit)
    (h : page.any p = false) : reach limit p (page ++ xs) = limit + reach limit p xs := by
  have hpage : page.findIdx? p = none := by
    rw [← Option.isNone_iff_eq_none, List.findIdx?_isNone]
    simpa using h
  unfold reach
  rw [List.findIdx?_append, hpage, hlen, Option.none_or]
  cases xs.findIdx? p with
  | none => simp [hlen]
  | some i =>
    simp only [Option.map_some]
    rw [Nat.add_div_right _ hlimit, Nat.mul_succ, Nat.add_comm]

/--
The last page that is read, after the full pages `read` and before the elements `unread`.
-/
structure LastPage (limit : Nat) (p : α → Bool) (read page unread : List α) : Prop where
  any : page.any p
  read_any : read.any p = false
  read_length : limit ∣ read.length
  length_le : page.length ≤ limit
  full : unread ≠ [] → page.length = limit

theorem lastPage_of_any (hlimit : 0 < limit) (h : xs.any p) :
    ∃ read page unread, xs = read ++ page ++ unread ∧
      xs.take (reach limit p xs) = read ++ page ∧ LastPage limit p read page unread := by
  rw [← List.findIdx?_isSome, Option.isSome_iff_exists] at h
  obtain ⟨i, hi⟩ := h
  obtain ⟨hlen, hpi, hbefore⟩ := List.findIdx?_eq_some_iff_getElem.mp hi
  have hdiv : limit * (i / limit) + i % limit = i := Nat.div_add_mod i limit
  have hmod : i % limit < limit := Nat.mod_lt i hlimit
  refine ⟨xs.take (limit * (i / limit)), (xs.drop (limit * (i / limit))).take limit,
    (xs.drop (limit * (i / limit))).drop limit, ?_, ?_, ?_⟩
  . rw [List.append_assoc, List.take_append_drop, List.take_append_drop]
  . unfold reach
    rw [hi]
    dsimp only
    rw [Nat.mul_succ, List.take_add]
  . constructor
    . rw [List.any_eq_true]
      refine ⟨xs[i], ?_, hpi⟩
      rw [List.mem_iff_getElem]
      refine ⟨i % limit, ?_, ?_⟩
      . rw [List.length_take, List.length_drop]
        omega
      . simp only [List.getElem_take, List.getElem_drop, hdiv]
    . rw [List.any_eq_false]
      intro x hx
      obtain ⟨j, hj, rfl⟩ := List.mem_iff_getElem.mp hx
      rw [List.length_take] at hj
      rw [List.getElem_take]
      exact hbefore j (by omega)
    . rw [List.length_take_of_le (by omega)]
      exact Nat.dvd_mul_right _ _
    . exact List.length_take_le _ _
    . intro hne
      rw [← List.length_pos_iff, List.length_drop] at hne
      rw [List.length_take]
      omega

end Paging
