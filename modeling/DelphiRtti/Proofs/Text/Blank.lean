import Mathlib.Data.List.DropRight
import DelphiRtti.Text.Blank

/-!
# What trimming leaves, and the words of a text

Trimming leaves the one part of a text that stands between blanks and has none
at its own ends.  The words are the pieces between the blanks, less the empty
ones, so a blank between two texts separates their words, and words that are
joined by spaces are read back.
-/

namespace DelphiRtti.Text

variable {text inner before after word left right : List Char}
  {row : List (List Char)} {blank : Char}

/-- Whether `inner` is `text` without the blanks at its ends. -/
structure Trims (text inner : List Char) : Prop where
  enclosed : ∃ before after, text = before ++ inner ++ after
    ∧ (∀ character ∈ before, isBlank character = true) ∧ ∀ character ∈ after,
      isBlank character = true
  starts : ∀ first ∈ inner.head?, isBlank first = false
  ends : ∀ last ∈ inner.getLast?, isBlank last = false

private theorem trimStart_eq_self
    (starts : ∀ first ∈ text.head?, isBlank first = false) :
    trimStart text = text := by
  cases text with
  | nil => rfl
  | cons first rest => simp [trimStart, starts first rfl]

private theorem trimEnd_eq_self
    (ends : ∀ last ∈ text.getLast?, isBlank last = false) :
    trimEnd text = text := by
  apply List.rdropWhile_eq_self_iff.2
  intro nonempty
  simp [ends _ (List.getLast_mem_getLast? nonempty)]

private theorem trimEnd_append
    (blanks : ∀ character ∈ after, isBlank character = true) :
    trimEnd (text ++ after) = trimEnd text := by
  have reversed : ∀ character ∈ after.reverse, isBlank character = true := by
    simpa using blanks
  simp only [trimEnd, List.reverse_append,
    List.dropWhile_append_of_pos reversed]

theorem trims_trim (text : List Char) : Trims text (trim text) := by
  have lead : text = text.takeWhile isBlank ++ trimStart text :=
    (List.takeWhile_append_dropWhile).symm
  have trail : trimStart text
      = trim text ++ (trimStart text).rtakeWhile isBlank :=
    List.rdropWhile_append_rtakeWhile.symm
  refine ⟨⟨text.takeWhile isBlank, (trimStart text).rtakeWhile isBlank, ?_, ?_,
    ?_⟩, ?_, ?_⟩
  · rw [List.append_assoc, ← trail]
    exact lead
  · exact fun character member => List.mem_takeWhile_imp member
  · exact fun character member => List.mem_rtakeWhile_imp member
  · intro first isFirst
    obtain ⟨rest, split⟩ := List.head?_eq_some_iff.1 isFirst
    rw [split] at trail
    have unblank := List.head?_dropWhile_not isBlank text
    rw [← trimStart, trail] at unblank
    exact unblank
  · intro last isLast
    obtain ⟨nonempty, rfl⟩ := List.mem_getLast?_eq_getLast isLast
    have unblank := List.rdropWhile_last_not isBlank (trimStart text) nonempty
    exact Bool.eq_false_iff.2 unblank

/-- Only one part of a text has no blanks at its ends and nothing but
blanks around it. -/
theorem Trims.trim_eq (trims : Trims text inner) : trim text = inner := by
  obtain ⟨before, after, rfl, blankBefore, blankAfter⟩ := trims.enclosed
  have noLead : trimStart (before ++ inner ++ after)
      = trimStart (inner ++ after) := by
    rw [List.append_assoc]
    exact List.dropWhile_append_of_pos blankBefore
  cases inner with
  | nil =>
      have nothing : trimStart after = [] :=
        List.dropWhile_eq_nil_iff.2 blankAfter
      rw [trim, noLead, List.nil_append, nothing]
      rfl
  | cons first rest =>
      have kept : trimStart (first :: rest ++ after) = first :: rest ++ after :=
        trimStart_eq_self trims.starts
      rw [trim, noLead, kept, trimEnd_append blankAfter,
        trimEnd_eq_self trims.ends]

theorem trim_eq_iff : trim text = inner ↔ Trims text inner := by
  constructor
  · rintro rfl
    exact trims_trim text
  · exact fun trims => trims.trim_eq

/-- Trimming does not notice further blanks around a text. -/
theorem trim_surrounded
    (blankBefore : ∀ character ∈ before, isBlank character = true)
    (blankAfter : ∀ character ∈ after, isBlank character = true)
    (text : List Char) : trim (before ++ text ++ after) = trim text := by
  obtain ⟨⟨lead, trail, enclosed, blankLead, blankTrail⟩, starts, ends⟩ :=
    trims_trim text
  apply Trims.trim_eq
  refine ⟨⟨before ++ lead, trail ++ after, ?_, ?_, ?_⟩, starts, ends⟩
  · nth_rewrite 1 [enclosed]
    simp
  · exact List.forall_mem_append.2 ⟨blankBefore, blankLead⟩
  · exact List.forall_mem_append.2 ⟨blankTrail, blankAfter⟩

theorem trim_append_of_blank
    (blankBefore : ∀ character ∈ before, isBlank character = true)
    (text : List Char) : trim (before ++ text) = trim text := by
  have noBlanks : ∀ character ∈ ([] : List Char),
      isBlank character = true := by simp
  simpa using trim_surrounded blankBefore noBlanks text

/-- What trimming leaves is trimmed already. -/
theorem Trims.itself (trims : Trims text inner) : Trims inner inner :=
  ⟨⟨[], [], by simp, by simp, by simp⟩, trims.starts, trims.ends⟩

theorem trim_unbroken
    (unbroken : ∀ character ∈ text, isBlank character = false) :
    trim text = text := by
  apply trim_eq_iff.2
  refine ⟨⟨[], [], by simp, by simp, by simp⟩, ?_, ?_⟩
  · exact fun first isFirst => unbroken first (List.mem_of_mem_head? isFirst)
  · exact fun last isLast => unbroken last (List.mem_of_mem_getLast? isLast)

theorem trim_enclosed
    (blankBefore : ∀ character ∈ before, isBlank character = true)
    (blankAfter : ∀ character ∈ after, isBlank character = true)
    (unbroken : ∀ character ∈ inner, isBlank character = false) :
    trim (before ++ inner ++ after) = inner :=
  (trim_surrounded blankBefore blankAfter inner).trans (trim_unbroken unbroken)

structure IsWord (word : List Char) : Prop where
  nonempty : word ≠ []
  unbroken : ∀ character ∈ word, isBlank character = false

private theorem unbroken_reverse
    (unbroken : ∀ character ∈ text, isBlank character = false) :
    ∀ character ∈ text.reverse, isBlank character = false := by
  simpa using unbroken

/-- The words that come out while `pending` is being read are those of the
text it was read from. -/
private theorem wordsFrom_eq (pending : List Char)
    (unbroken : ∀ character ∈ pending, isBlank character = false)
    (text : List Char) :
    wordsFrom pending text
      = ((pending.reverse ++ text).splitOnP isBlank).filter
        (fun piece => !piece.isEmpty) := by
  induction text generalizing pending with
  | nil =>
      rw [List.append_nil,
        List.splitOnP_eq_singleton (unbroken_reverse unbroken)]
      cases pending with
      | nil => rfl
      | cons last front => simp [wordsFrom]
  | cons character rest induction =>
      cases here : isBlank character with
      | true =>
          rw [List.splitOnP_append_cons_of_forall_mem (unbroken_reverse
            unbroken) _ here, wordsFrom, if_pos here, induction [] (by simp)]
          cases pending with
          | nil => simp
          | cons last front => simp
      | false =>
          have longer :
              ∀ other ∈ character :: pending, isBlank other = false := by
            simpa [here] using unbroken
          rw [wordsFrom, here, if_neg Bool.false_ne_true, induction _ longer]
          simp

/-- The words are the pieces between the blanks that are not empty. -/
theorem words_eq_splitOnP (text : List Char) :
    words text = (text.splitOnP isBlank).filter (fun piece => !piece.isEmpty) :=
  wordsFrom_eq [] (by simp) text

private theorem unbroken_of_mem_wordsFrom (pending : List Char)
    (unbroken : ∀ character ∈ pending, isBlank character = false)
    (member : word ∈ wordsFrom pending text) :
    ∀ character ∈ word, isBlank character = false := by
  induction text generalizing pending with
  | nil =>
      cases pending with
      | nil => simp [wordsFrom] at member
      | cons last front =>
          simp only [wordsFrom, List.isEmpty_cons, Bool.false_eq_true, if_false,
            List.mem_singleton] at member
          rw [member]
          exact unbroken_reverse unbroken
  | cons character rest induction =>
      simp only [wordsFrom] at member
      split at member
      case isTrue =>
          split at member
          case isTrue => exact induction [] (by simp) member
          case isFalse =>
              rcases List.mem_cons.1 member with rfl | later
              · exact unbroken_reverse unbroken
              · exact induction [] (by simp) later
      case isFalse here =>
          apply induction (character :: pending) _ member
          simpa [here] using unbroken

theorem isWord_of_mem_words (member : word ∈ words text) : IsWord word :=
  ⟨ne_nil_of_mem_words member, unbroken_of_mem_wordsFrom [] (by simp) member⟩

theorem words_append_cons
    (white : isBlank blank = true) (left right : List Char) :
    words (left ++ blank :: right) = words left ++ words right := by
  simp only [words_eq_splitOnP, List.splitOnP_append_cons _ _ white,
    List.filter_append]

theorem IsWord.words_eq (isWord : IsWord word) : words word = [word] := by
  rw [words_eq_splitOnP, List.splitOnP_eq_singleton isWord.unbroken]
  simp [isWord.nonempty]

/-- Words that are joined by spaces are read back. -/
theorem words_intercalate (areWords : ∀ word ∈ row, IsWord word) :
    words ([' '].intercalate row) = row := by
  induction row with
  | nil => rfl
  | cons word rest induction =>
      have first := (areWords word List.mem_cons_self).words_eq
      have others := induction fun other member =>
        areWords other (List.mem_cons_of_mem _ member)
      cases rest with
      | nil => simpa using first
      | cons next rest =>
          rw [List.intercalate_cons_cons, List.append_assoc,
            List.singleton_append, words_append_cons (by decide), first, others]
          rfl

end DelphiRtti.Text
