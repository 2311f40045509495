/-!
# Sorting by a key

Sorting by a key keeps the order of items that have the same key.  So the
sorted list is the only one that ascends by the key and has the items of each
key in their first order.
-/

namespace DelphiRtti

variable {α : Type} {key : α → Nat}

/-- Whether an item comes no later than another one when items are
sorted by a key. -/
def noLaterBy (key : α → Nat) (first second : α) : Bool :=
  key first ≤ key second

theorem noLaterBy_iff {first second : α} :
    noLaterBy key first second = true ↔ key first ≤ key second :=
      decide_eq_true_iff

theorem noLaterBy_trans
    (first second third : α) (before : noLaterBy key first second = true)
    (after : noLaterBy key second third = true) :
    noLaterBy key first third = true := by
  rw [noLaterBy_iff] at *
  exact Nat.le_trans before after

theorem noLaterBy_total (first second : α) :
    (noLaterBy key first second || noLaterBy key second first) = true := by
  rw [Bool.or_eq_true, noLaterBy_iff, noLaterBy_iff]
  exact Nat.le_total _ _

theorem pairwise_mergeSort_noLaterBy (key : α → Nat) (items : List α) :
    (items.mergeSort (noLaterBy key)).Pairwise
      fun first second => key first ≤ key second :=
  (List.pairwise_mergeSort noLaterBy_trans noLaterBy_total items).imp
    noLaterBy_iff.1

theorem filter_mergeSort_noLaterBy (key : α → Nat) (items : List α)
    (value : Nat) :
    ((items.mergeSort (noLaterBy key)).filter fun item => key item = value)
      = items.filter fun item => key item = value := by
  have inOrder : (items.filter fun item => key item = value).Pairwise
      fun first second => noLaterBy key first second = true := by
    rw [List.pairwise_filter]
    apply List.pairwise_of_forall
    intro first second firstKey secondKey
    rw [decide_eq_true_eq] at firstKey secondKey
    exact noLaterBy_iff.2 (Nat.le_of_eq (firstKey.trans secondKey.symm))
  have kept := (List.sublist_mergeSort noLaterBy_trans noLaterBy_total inOrder
    List.filter_sublist).filter fun item => key item = value
  rw [List.filter_filter] at kept
  simp only [Bool.and_self] at kept
  exact (kept.eq_of_length
    ((List.mergeSort_perm items _).filter _).length_eq.symm).symm

/-- Lists that ascend by a key are the same if they have the same items, in the
same order, for each key. -/
theorem eq_of_ascending_of_filter_eq (key : α → Nat) {left right : List α}
    (leftAscends : left.Pairwise fun first second => key first ≤ key second)
    (rightAscends : right.Pairwise fun first second => key first ≤ key second)
    (same : ∀ found, (left.filter fun item => key item = key found)
      = right.filter fun item => key item = key found) : left = right := by
  induction left generalizing right with
  | nil =>
      cases right with
      | nil => rfl
      | cons other others => simpa using same other
  | cons item items induction =>
      cases right with
      | nil => simpa using same item
      | cons other others =>
          obtain ⟨itemFirst, itemsAscend⟩ := List.pairwise_cons.1 leftAscends
          obtain ⟨otherFirst, othersAscend⟩ := List.pairwise_cons.1 rightAscends
          have listed (found : α) : found ∈ item :: items
              ↔ found ∈ other :: others := by
            simpa using congrArg (found ∈ ·) (same found)
          have sameKey : key item = key other := by
            apply Nat.le_antisymm
            · rcases List.mem_cons.1 ((listed other).2 List.mem_cons_self)
                with rfl | later
              · exact Nat.le_refl _
              · exact itemFirst other later
            · rcases List.mem_cons.1 ((listed item).1 List.mem_cons_self)
                with rfl | later
              · exact Nat.le_refl _
              · exact otherFirst item later
          have heads := same item
          rw [List.filter_cons_of_pos (by simp),
            List.filter_cons_of_pos (by simp [sameKey])] at heads
          obtain ⟨rfl, rest⟩ := List.cons.inj heads
          refine congrArg (item :: ·)
            (induction itemsAscend othersAscend fun found => ?_)
          by_cases here : key item = key found
          · rw [← here]
            exact rest
          · have tails := same found
            rw [List.filter_cons_of_neg (by simpa using here),
              List.filter_cons_of_neg (by simpa using here)] at tails
            exact tails

end DelphiRtti
