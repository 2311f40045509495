import Mathlib.Data.List.Chain
import DelphiRtti.Proofs.Text.Blank
import DelphiRtti.Text.Wrapped

/-!
# Wrapped text keeps its words and takes the fewest lines

The lines are rows of words: together the rows are the words of the text, a row
that is wider than the width is a single word, and a row ends only where the
next word would not fit.  No division of the words into rows that fit has fewer
of them, since what rows of this kind leave over is always an end of what the
other division leaves over.
-/

namespace DelphiRtti.Text

variable {width : Nat} {text word : List Char}
  {row part next : List (List Char)} {rows division : List (List (List Char))}

def joined (row : List (List Char)) : List Char :=
  [' '].intercalate row

/-- A row fits if its line is within the width, or if it is a single word. -/
def Fits (width : Nat) (row : List (List Char)) : Prop :=
  byteLength (joined row) ≤ width ∨ row.length = 1

instance : Decidable (Fits width row) :=
  inferInstanceAs (Decidable (_ ∨ _))

/-- Nothing of the next row would fit on the line. -/
def Full (width : Nat) (line : List Char) (next : List (List Char)) : Prop :=
  ∃ word more, next = word :: more
    ∧ width < byteLength line + 1 + byteLength word

/-- Rows that fit, each of which ends only because it is full. -/
structure Filled (width : Nat) (rows : List (List (List Char))) : Prop where
  nonempty : ∀ row ∈ rows, row ≠ []
  fits : ∀ row ∈ rows, Fits width row
  full : rows.IsChain fun row next => Full width (joined row) next

theorem byteLength_eq_utf8ByteSize (text : List Char) :
    byteLength text = (String.ofList text).utf8ByteSize := by
  induction text with
  | nil => rfl
  | cons character rest induction =>
      rw [byteLength, ← List.singleton_append, String.ofList_append,
        String.utf8ByteSize_append, ← induction]
      simp

theorem byteLength_append (left right : List Char) :
    byteLength (left ++ right) = byteLength left + byteLength right := by
  induction left with
  | nil => simp [byteLength]
  | cons character rest induction => simp [byteLength, induction, Nat.add_assoc]

theorem joined_append (begun : row ≠ []) (follows : next ≠ []) :
    joined (row ++ next) = joined row ++ ' ' :: joined next := by
  obtain ⟨below, others, rfl⟩ := List.exists_cons_of_ne_nil follows
  induction row with
  | nil => contradiction
  | cons first rest induction =>
      cases rest with
      | nil => simp [joined]
      | cons second rest =>
          have shorter := induction (List.cons_ne_nil second rest)
          simp only [joined, List.cons_append,
            List.intercalate_cons_cons] at shorter ⊢
          rw [shorter]
          simp

theorem byteLength_joined_append (begun : row ≠ []) (follows : next ≠ []) :
    byteLength (joined (row ++ next))
      = byteLength (joined row) + 1 + byteLength (joined next) := by
  rw [joined_append begun follows, byteLength_append, byteLength, Nat.add_assoc]
  rfl

theorem joined_singleton (word : List Char) : joined [word] = word := by
  simp [joined]

theorem byteLength_joined_concat (begun : row ≠ []) (word : List Char) :
    byteLength (joined (row ++ [word]))
      = byteLength (joined row) + 1 + byteLength word := by
  rw [byteLength_joined_append begun (List.cons_ne_nil word []),
    joined_singleton]

/-- A row that goes on is at least as wide as either of its halves. -/
theorem byteLength_joined_le_append (left right : List (List Char)) :
    byteLength (joined left) ≤ byteLength (joined (left ++ right))
      ∧ byteLength (joined right) ≤ byteLength (joined (left ++ right)) := by
  by_cases begun : left = []
  · simp [begun, joined, byteLength]
  by_cases follows : right = []
  · simp [follows, joined, byteLength]
  rw [byteLength_joined_append begun follows]
  omega

theorem byteLength_joined_le_of_infix (inside : part <:+: row) :
    byteLength (joined part) ≤ byteLength (joined row) := by
  obtain ⟨before, after, rfl⟩ := inside
  calc byteLength (joined part)
      ≤ byteLength (joined (before ++ part)) :=
        (byteLength_joined_le_append before part).2
    _ ≤ byteLength (joined (before ++ part ++ after)) :=
      (byteLength_joined_le_append (before ++ part) after).1

theorem Fits.not_full_of_infix (fits : Fits width row)
    (begun : part ≠ []) (inside : part ++ [word] <:+: row) :
    byteLength (joined part) + 1 + byteLength word ≤ width := by
  have several : 1 < row.length := by
    have bound := inside.length_le
    have positive := List.length_pos_iff.2 begun
    simp only [List.length_append, List.length_singleton] at bound
    omega
  have narrow : byteLength (joined row) ≤ width :=
    fits.resolve_right several.ne'
  calc byteLength (joined part) + 1 + byteLength word
      = byteLength (joined (part ++ [word])) :=
        (byteLength_joined_concat begun word).symm
    _ ≤ byteLength (joined row) := byteLength_joined_le_of_infix inside
    _ ≤ width := narrow

theorem Filled.tail (filled : Filled width (row :: rows)) : Filled width rows :=
  ⟨fun other member => filled.nonempty other (List.mem_cons_of_mem row member),
    fun other member => filled.fits other (List.mem_cons_of_mem row member),
      filled.full.tail⟩

theorem Filled.singleton (begun : row ≠ []) (fits : Fits width row) :
    Filled width [row] := by
  refine ⟨?_, ?_, List.isChain_singleton row⟩
  · simpa using begun
  · simpa using fits

theorem Filled.cons (begun : row ≠ [])
    (fits : Fits width row) (full : Full width (joined row) next)
    (filled : Filled width (next :: rows)) :
    Filled width (row :: next :: rows) := by
  refine ⟨?_, ?_, List.isChain_cons_cons.2 ⟨full, filled.full⟩⟩
  · exact List.forall_mem_cons.2 ⟨begun, filled.nonempty⟩
  · exact List.forall_mem_cons.2 ⟨fits, filled.fits⟩

/-- Of a list in two halves, the rest after an inner part is an end of the
second half, unless the part and the element after it are in the first. -/
private theorem suffix_or_infix {α : Type} {part rest first second : List α}
    (suffix : part ++ rest <:+ first ++ second) :
    rest <:+ second ∨ ∃ item ∈ rest.head?, part ++ [item] <:+: first := by
  obtain ⟨before, split⟩ := suffix
  have inside : rest <:+ first ++ second :=
    ⟨before ++ part, by simpa using split⟩
  rcases List.suffix_or_suffix_of_suffix inside
    (List.suffix_append first second) with left | ⟨more, beyond⟩
  · exact .inl left
  · cases more with
    | nil => exact .inl ⟨[], beyond.symm⟩
    | cons item more =>
        right
        have whole : (before ++ part ++ item :: more) ++ second
            = first ++ second := by
          rw [← split, ← beyond]
          simp
        refine ⟨item, by simp [← beyond], before, more, ?_⟩
        simpa using List.append_cancel_right whole

theorem Filled.tail_suffix {other left : List (List Char)}
    (filled : Filled width (row :: rows)) (fits : Fits width other)
    (suffix : (row :: rows).flatten <:+ other ++ left) :
    rows.flatten <:+ left := by
  -- What is left after a filled row is an end of what is left after any row
  -- that fits: if it were more, the row that fits would hold the filled row
  -- and the word after it.
  rcases suffix_or_infix suffix with inside | ⟨word, follows, held⟩
  · exact inside
  · cases rows with
    | nil => simp at follows
    | cons next rows =>
        obtain ⟨⟨first, rest, rfl, wide⟩, -⟩ :=
          List.isChain_cons_cons.1 filled.full
        obtain rfl : first = word := by simpa using follows
        have begun := filled.nonempty row List.mem_cons_self
        exact absurd wide (Nat.not_lt.2 (fits.not_full_of_infix begun held))

/-- Filled rows whose words are an end of those of a division are no more than
the rows of the division. -/
theorem Filled.length_le
    (filled : Filled width rows) (fits : ∀ row ∈ division, Fits width row)
    (suffix : rows.flatten <:+ division.flatten) :
    rows.length ≤ division.length := by
  -- The rows are general, since of each division only what its first row leaves
  -- over is compared further.
  induction division generalizing rows with
  | nil =>
      have nothing : rows.flatten = [] := List.suffix_nil.1 suffix
      cases rows with
      | nil => exact Nat.le_refl 0
      | cons row rows =>
          have begun := filled.nonempty row List.mem_cons_self
          simp [begun] at nothing
  | cons other division induction =>
      cases rows with
      | nil => exact Nat.zero_le _
      | cons row rows =>
          have left := filled.tail_suffix (fits other List.mem_cons_self) suffix
          have fewer := induction filled.tail (fun row member =>
            fits row (List.mem_cons_of_mem other member)) left
          exact Nat.succ_le_succ fewer

theorem fillLines_filled (begun : row ≠ []) (fits : Fits width row)
    (rest : List (List Char)) :
    ∃ taken others,
      fillLines width (joined row) rest = ((row ++ taken) :: others).map joined
      ∧ taken ++ others.flatten = rest
      ∧ Filled width ((row ++ taken) :: others) := by
  induction rest generalizing row with
  | nil =>
      refine ⟨[], [], by simp [fillLines], rfl, ?_⟩
      simpa using Filled.singleton begun fits
  | cons word rest induction =>
      rw [fillLines]
      split
      case isTrue wide =>
          have alone : Fits width [word] := .inr rfl
          obtain ⟨taken, others, lines, split, filled⟩ :=
            induction (List.cons_ne_nil word []) alone
          refine ⟨[], ([word] ++ taken) :: others, ?_, ?_, ?_⟩
          · rw [joined_singleton] at lines
            rw [lines, List.append_nil]
            rfl
          · simp [← split]
          · rw [List.append_nil]
            exact .cons begun fits ⟨word, taken, rfl, wide⟩ filled
      case isFalse narrow =>
          have longer : Fits width (row ++ [word]) := by
            left
            rw [byteLength_joined_concat begun]
            exact Nat.not_lt.1 narrow
          obtain ⟨taken, others, lines, split, filled⟩ :=
            induction (by simp) longer
          refine ⟨word :: taken, others, ?_, ?_, ?_⟩
          · rw [joined_append begun (List.cons_ne_nil word []),
              joined_singleton, List.append_assoc] at lines
            exact lines
          · simp [← split]
          · rw [List.append_cons]
            exact filled

/-- A wrapped text is the words of the text in filled rows. -/
theorem wrap_filled (width : Nat) (text : List Char) :
    ∃ rows, wrap width text = rows.map joined
      ∧ rows.flatten = words text
      ∧ Filled width rows := by
  rw [wrap]
  split
  case h_1 wordless =>
      exact ⟨[], rfl, by simp [wordless], by simp, by simp, by simp⟩
  case h_2 word rest worded =>
      have alone : Fits width [word] := .inr rfl
      obtain ⟨taken, others, lines, split, filled⟩ :=
        fillLines_filled (List.cons_ne_nil word []) alone rest
      refine ⟨([word] ++ taken) :: others, ?_, ?_, filled⟩
      · rw [← lines, joined_singleton]
      · rw [worded, ← split]
        simp

theorem words_joined (together : rows.flatten = words text)
    (member : row ∈ rows) : words (joined row) = row := by
  apply words_intercalate
  intro word inRow
  apply isWord_of_mem_words
  rw [← together]
  exact List.mem_flatten_of_mem member inRow

/-- The lines hold the words of the text in order, joined by single spaces; none
is empty, only a single word is wider than the width, each ends because the next
word would not fit, and no other division takes fewer lines. -/
theorem wrap_takes_the_fewest_lines (width : Nat) (text : List Char) :
    words text = (text.splitOnP isBlank).filter (fun piece => !piece.isEmpty)
      ∧ (wrap width text).flatMap words = words text
      ∧ (∀ line ∈ wrap width text, line ≠ [] ∧ line = joined (words line)
          ∧ (width < byteLength line → ∃ word, words line = [word]))
      ∧ (wrap width text).IsChain
        (fun line below => Full width line (words below))
      ∧ ∀ division : List (List (List Char)), division.flatten = words text →
          (∀ row ∈ division, Fits width row) →
            (wrap width text).length ≤ division.length := by
  obtain ⟨rows, lines, together, filled⟩ := wrap_filled width text
  have readBack : ∀ row ∈ rows, words (joined row) = row :=
    fun _ member => words_joined together member
  rw [lines]
  refine ⟨words_eq_splitOnP text, ?_, ?_, ?_, ?_⟩
  · rw [List.flatMap_map, ← together, List.flatten_eq_flatMap]
    exact List.flatMap_congr readBack
  · intro line member
    obtain ⟨row, inRows, rfl⟩ := List.mem_map.1 member
    have same := readBack row inRows
    refine ⟨?_, congrArg joined same.symm, ?_⟩
    · intro empty
      rw [empty] at same
      exact filled.nonempty row inRows same.symm
    · intro wide
      have single := (filled.fits row inRows).resolve_left (Nat.not_le.2 wide)
      rw [same]
      exact List.length_eq_one_iff.1 single
  · apply (List.isChain_map joined).2
    apply filled.full.imp_of_mem_imp
    intro row below _ inRows full
    rw [readBack below inRows]
    exact full
  · intro division same fits
    rw [List.length_map]
    apply filled.length_le fits
    simp [together, same]

theorem wrap_takes_the_fewest_lines_of_three :
    (∀ row ∈ [["one".toList], ["two".toList, "three".toList], ["four".toList]],
      Fits 9 row)
      ∧ wrap 9 "one two three four".toList
        = ["one two".toList, "three".toList, "four".toList]
      ∧ (wrap 9 "one two three four".toList).length ≤ 3 := by
  have fits : ∀ row ∈ [["one".toList], ["two".toList, "three".toList],
      ["four".toList]], Fits 9 row := by
    decide
  obtain ⟨-, -, -, -, fewest⟩ :=
    wrap_takes_the_fewest_lines 9 "one two three four".toList
  exact ⟨fits, by decide, fewest _ (by decide) fits⟩

end DelphiRtti.Text
