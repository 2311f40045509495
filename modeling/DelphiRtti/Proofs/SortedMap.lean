import DelphiRtti.SortedMap

/-!
# Sorted maps by their entries

A key of a sorted map stands in one entry only, so looking a key up and finding
its entry come to the same.
-/

namespace DelphiRtti

namespace SortedMap

variable {κ ν : Type} [DecidableEq κ]

theorem mem_of_lookup {key : κ} {value : ν} {entries : List (κ × ν)}
    (found : lookup key entries = some value) : (key, value) ∈ entries := by
  induction entries with
  | nil => cases found
  | cons entry rest induction =>
      rw [lookup] at found
      split at found
      case isTrue same =>
          cases found
          subst same
          exact List.mem_cons_self
      case isFalse => exact List.mem_cons_of_mem _ (induction found)

variable [KeyOrder κ]

theorem lookup_of_mem {key : κ} {value : ν} {entries : List (κ × ν)}
    (ascending :
      entries.Pairwise fun left right => KeyOrder.before left.1 right.1 = true)
    (member : (key, value) ∈ entries) : lookup key entries = some value := by
  induction entries with
  | nil => cases member
  | cons entry rest induction =>
      obtain ⟨first, restAscending⟩ := List.pairwise_cons.1 ascending
      rw [lookup]
      rcases List.mem_cons.1 member with rfl | later
      · exact if_pos rfl
      · have apart : entry.1 ≠ key := by
          rintro rfl
          have before := first _ later
          rw [KeyOrder.irrefl] at before
          cases before
        rw [if_neg apart]
        exact induction restAscending later

theorem get?_eq_some_iff {map : SortedMap κ ν} {key : κ} {value : ν} :
    map.get? key = some value ↔ (key, value) ∈ map.toList :=
  ⟨mem_of_lookup, lookup_of_mem map.ascending⟩

theorem get?_filter_eq_some_iff {map : SortedMap κ ν} {keep : κ → ν → Bool}
    {key : κ} {value : ν} :
    (map.filter keep).get? key = some value
      ↔ map.get? key = some value ∧ keep key value = true := by
  rw [get?_eq_some_iff, get?_eq_some_iff]
  exact List.mem_filter

omit [DecidableEq κ] in
theorem nodup_toList (map : SortedMap κ ν) : map.toList.Nodup := by
  apply map.ascending.imp
  intro left right before same
  rw [same, KeyOrder.irrefl] at before
  cases before

omit [DecidableEq κ] in
theorem nodup_keys (map : SortedMap κ ν) : map.keys.Nodup := by
  rw [keys, List.Nodup, List.pairwise_map]
  apply map.ascending.imp
  intro left right before same
  rw [same, KeyOrder.irrefl] at before
  cases before

theorem mem_keys_iff {map : SortedMap κ ν} {key : κ} :
    key ∈ map.keys ↔ ∃ value, map.get? key = some value := by
  simp only [keys, List.mem_map, Prod.exists, get?_eq_some_iff]
  constructor
  · rintro ⟨_, value, member, rfl⟩
    exact ⟨value, member⟩
  · rintro ⟨value, member⟩
    exact ⟨key, value, member, rfl⟩

/-- All items of a map to lists, each with its key. -/
def items (map : SortedMap κ (List ν)) : List (κ × ν) :=
  map.toList.flatMap fun entry => entry.2.map fun value => (entry.1, value)

omit [DecidableEq κ] in
theorem items_ascending (map : SortedMap κ (List ν)) :
    map.items.Pairwise
      fun left right => KeyOrder.before right.1 left.1 = false := by
  have notBefore {left right : κ} (before : KeyOrder.before left right = true) :
      KeyOrder.before right left = false := by
    cases after : KeyOrder.before right left with
    | false => rfl
    | true =>
        have around := KeyOrder.trans before after
        rw [KeyOrder.irrefl] at around
        cases around
  rw [items, List.pairwise_flatMap]
  constructor
  · intro entry _
    rw [List.pairwise_map]
    exact List.pairwise_of_forall fun _ _ => KeyOrder.irrefl entry.1
  · apply map.ascending.imp
    intro entry other before first firstThere second secondThere
    obtain ⟨_, _, rfl⟩ := List.mem_map.1 firstThere
    obtain ⟨_, _, rfl⟩ := List.mem_map.1 secondThere
    exact notBefore before

/-- The items with one key are the list that is found under it. -/
theorem items_filter (map : SortedMap κ (List ν)) (key : κ) :
    (map.items.filter fun item => item.1 = key)
      = ((map.get? key).getD []).map fun value => (key, value) := by
  obtain ⟨entries, ascending⟩ := map
  simp only [items, get?]
  induction entries with
  | nil => rfl
  | cons entry rest induction =>
      obtain ⟨first, restAscending⟩ := List.pairwise_cons.1 ascending
      have later := induction restAscending
      rw [List.flatMap_cons, List.filter_append, later, lookup, List.filter_map]
      by_cases same : entry.1 = key
      · subst same
        have gone : lookup entry.1 rest = none := by
          cases found : lookup entry.1 rest with
          | none => rfl
          | some value =>
              have before := first _ (mem_of_lookup found)
              rw [KeyOrder.irrefl] at before
              cases before
        have all : (entry.2.filter fun _ => true) = entry.2 :=
          List.filter_eq_self.2 fun _ _ => rfl
        simp [gone, all, Function.comp_def]
      · simp [same, Function.comp_def]

/-- What is found in a sorted map determines it. -/
theorem ext_get? {left right : SortedMap κ ν}
    (same : ∀ key, left.get? key = right.get? key) : left = right := by
  have sameEntries : left.toList.Perm right.toList := by
    apply (List.perm_ext_iff_of_nodup left.nodup_toList right.nodup_toList).2
    intro entry
    rw [← get?_eq_some_iff, ← get?_eq_some_iff, same]
  apply SortedMap.ext
  apply sameEntries.eq_of_pairwise _ left.ascending right.ascending
  intro first second _ _ before after
  have around := KeyOrder.trans before after
  rw [KeyOrder.irrefl] at around
  cases around

end SortedMap

end DelphiRtti
