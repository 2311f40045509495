import DelphiRtti.Proofs.Address.Rendering
import DelphiRtti.Shell.Hexdump
import DelphiRtti.Text.Latin

/-!
# What a hexdump shows

A hexdump cuts its bytes into pieces of sixteen, one for each line.  Everything
on a line has its columns: the address of the first byte, the digits of every
byte in groups of four, and a character for every byte.  The digits of all lines
in a row are those of all bytes, so the bytes are read back from the lines, and
the base from the first one.
-/

namespace DelphiRtti

open Text

namespace Hexdump

variable {α : Type} {items : List α} {size number : Nat}
  {base address : Address} {bytes : List UInt8}

theorem chunks_eq_cons (positive : 0 < size) (nonempty : items ≠ []) :
    chunks size items = items.take size :: chunks size (items.drop size) := by
  obtain ⟨size, rfl⟩ := Nat.exists_eq_succ_of_ne_zero (Nat.ne_of_gt positive)
  cases items with
  | nil => exact (nonempty rfl).elim
  | cons head rest => rw [chunks]; rfl

theorem flatten_chunks (size : Nat) (items : List α) :
    (chunks size items).flatten = items := by
  induction items using chunks.induct size with
  | case1 => simp [chunks]
  | case2 head rest induction =>
      rw [chunks, List.flatten_cons, induction, List.cons_append,
        List.take_append_drop]

theorem getElem?_chunks (positive : 0 < size) (number : Nat) (items : List α) :
    (chunks size items)[number]?
      = if size * number < items.length then
        some ((items.drop (size * number)).take size) else none := by
  induction number generalizing items with
  | zero =>
      cases items with
      | nil => simp [chunks]
      | cons head rest => simp [chunks_eq_cons positive]
  | succ number induction =>
      cases items with
      | nil => simp [chunks]
      | cons head rest =>
          have before : size * number < (head :: rest).length - size
              ↔ size * number + size < (head :: rest).length := by omega
          rw [chunks_eq_cons positive (by simp), List.getElem?_cons_succ,
            induction, List.length_drop, List.drop_drop, Nat.mul_succ,
            Nat.add_comm size, if_congr before rfl rfl]

theorem lt_length_chunks_iff (positive : 0 < size) :
    number < (chunks size items).length ↔ size * number < items.length := by
  rw [← Nat.not_le, ← List.getElem?_eq_none_iff, getElem?_chunks positive]
  split
  case isTrue inside => simp [inside]
  case isFalse outside => simp [outside]

theorem length_le_of_mem_chunks (positive : 0 < size) {piece : List α}
    (member : piece ∈ chunks size items) : piece.length ≤ size := by
  obtain ⟨number, found⟩ := List.mem_iff_getElem?.1 member
  rw [getElem?_chunks positive] at found
  split at found
  case isTrue =>
      cases found
      exact List.length_take_le _ _
  case isFalse => cases found

/-- There are as many lines as sixteens of bytes, the last one begun. -/
theorem length_chunks_lineBytes (items : List α) :
    (chunks lineBytes items).length = (items.length + 15) / 16 := by
  have positive : 0 < lineBytes := by decide
  have last : ¬ lineBytes * (chunks lineBytes items).length < items.length :=
    fun inside => Nat.lt_irrefl _ ((lt_length_chunks_iff positive).2 inside)
  have begun : 0 < (chunks lineBytes items).length →
      lineBytes * ((chunks lineBytes items).length - 1) < items.length :=
    fun some => (lt_length_chunks_iff positive).1 (Nat.sub_lt some Nat.one_pos)
  simp only [lineBytes] at last begun ⊢
  omega

theorem hexOfBytes_append (left right : List UInt8) :
    hexOfBytes (left ++ right) = hexOfBytes left ++ hexOfBytes right := by
  simp [hexOfBytes]

theorem length_hexOfBytes (bytes : List UInt8) :
    (hexOfBytes bytes).length = 2 * bytes.length := by
  induction bytes with
  | nil => rfl
  | cons byte rest induction =>
      have first : hexOfBytes (byte :: rest) = hexDigits digit 2 byte.toNat
          ++ hexOfBytes rest := rfl
      rw [first, List.length_append, length_hexDigits, induction,
        List.length_cons]
      omega

theorem hexOfBytes_flatten (pieces : List (List UInt8)) :
    hexOfBytes pieces.flatten = (pieces.map hexOfBytes).flatten := by
  induction pieces with
  | nil => rfl
  | cons piece rest induction => simp [hexOfBytes_append, induction]

theorem ne_space_of_mem_hexOfBytes {character : Char}
    (member : character ∈ hexOfBytes bytes) : character ≠ ' ' := by
  simp only [hexOfBytes, List.mem_flatMap] at member
  obtain ⟨byte, -, written⟩ := member
  have number := numeral_hexDigits (fun _ => isDigit_digit) 1 byte.toNat
  have listed := number.mem character written
  rintro rfl
  revert listed
  decide

theorem take_drop_hexOfBytes {index : Nat}
    {byte : UInt8} (found : bytes[index]? = some byte) :
    ((hexOfBytes bytes).drop (2 * index)).take 2
    = hexDigits digit 2 byte.toNat := by
  obtain ⟨inside, rfl⟩ := List.getElem?_eq_some_iff.1 found
  have split : hexOfBytes bytes
      = hexOfBytes (bytes.take index)
        ++ hexOfBytes (bytes[index] :: bytes.drop (index + 1)) := by
    rw [← hexOfBytes_append, List.cons_getElem_drop_succ, List.take_append_drop]
  have front : (hexOfBytes (bytes.take index)).length = 2 * index := by
    rw [length_hexOfBytes, List.length_take,
      Nat.min_eq_left (Nat.le_of_lt inside)]
  rw [split, List.drop_left' front]
  exact List.take_left' (length_hexDigits _ _ _)

theorem take_drop_append {start count : Nat}
    {left right : List α} (inside : start + count ≤ left.length) :
    ((left ++ right).drop start).take count = (left.drop start).take count := by
  rw [List.drop_append_of_le_length (by omega), List.take_append_of_le_length]
  rw [List.length_drop]
  omega

theorem groups_of_short (short : bytes.length ≤ 4) :
    groups bytes = hexOfBytes bytes := by
  cases bytes with
  | nil => simp [groups, chunks, hexOfBytes]
  | cons byte rest =>
      have whole : chunks 4 (byte :: rest) = [byte :: rest] := by
        rw [chunks_eq_cons (by decide) (by simp), List.take_of_length_le short,
          List.drop_eq_nil_of_le short, chunks]
      simp [groups, whole]

theorem groups_append
    {first rest : List UInt8} (whole : first.length = 4) (more : rest ≠ []) :
    groups (first ++ rest) = hexOfBytes first ++ ' ' :: groups rest := by
  have nonempty : first ++ rest ≠ [] :=
    List.append_ne_nil_of_right_ne_nil _ more
  rw [groups, groups, chunks_eq_cons (by decide) nonempty,
    List.take_left' whole, List.drop_left' whole, chunks_eq_cons
    (by decide) more, List.map_cons, List.map_cons, List.intercalate_cons_cons]
  simp

/-- Bytes are in one group, or a group of four comes before them. -/
theorem groups_induct {motive : List UInt8 → Prop}
    (short : ∀ bytes, bytes.length ≤ 4 → motive bytes)
    (append : ∀ first rest : List UInt8, first.length = 4 →
      rest ≠ [] → motive rest → motive (first ++ rest)) (bytes : List UInt8) :
    motive bytes := by
  induction length : bytes.length using Nat.strong_induction_on
    generalizing bytes with
  | _ length induction =>
      subst length
      rcases Nat.lt_or_ge 4 bytes.length with long | few
      · have fewer : (bytes.drop 4).length < bytes.length := by
          rw [List.length_drop]
          omega
        have more : bytes.drop 4 ≠ [] := by
          apply List.ne_nil_of_length_pos
          rw [List.length_drop]
          omega
        have whole : (bytes.take 4).length = 4 :=
          List.length_take_of_le (Nat.le_of_lt long)
        have appended := append _ _ whole more (induction _ fewer _ rfl)
        rw [List.take_append_drop] at appended
        exact appended
      · exact short bytes few

theorem filter_groups (bytes : List UInt8) :
    (groups bytes).filter (fun character => decide (character ≠ ' '))
      = hexOfBytes bytes := by
  have kept : ∀ bytes, (hexOfBytes bytes).filter
      (fun character => decide (character ≠ ' ')) = hexOfBytes bytes := by
    intro bytes
    apply List.filter_eq_self.2
    intro character member
    exact decide_eq_true (ne_space_of_mem_hexOfBytes member)
  induction bytes using groups_induct with
  | short bytes few => rw [groups_of_short few, kept]
  | append first rest whole more induction =>
      rw [groups_append whole more, List.filter_append, kept,
        List.filter_cons_of_neg (by simp), induction, hexOfBytes_append]

theorem length_groups (nonempty : bytes ≠ []) :
    (groups bytes).length = 2 * bytes.length + (bytes.length - 1) / 4 := by
  induction bytes using groups_induct with
  | short bytes few =>
      have positive := List.length_pos_iff.2 nonempty
      rw [groups_of_short few, length_hexOfBytes]
      omega
  | append first rest whole more induction =>
      have positive := List.length_pos_iff.2 more
      rw [groups_append whole more, List.length_append, List.length_cons,
        induction more, length_hexOfBytes, List.length_append, whole]
      omega

/-- A group of four bytes takes nine columns, so a byte is moved by as many
columns as there are groups before it. -/
theorem take_drop_groups
    {index : Nat} {byte : UInt8} (found : bytes[index]? = some byte) :
    ((groups bytes).drop (2 * index + index / 4)).take 2
    = hexDigits digit 2 byte.toNat := by
  induction bytes using groups_induct generalizing index with
  | short bytes few =>
      have inside := (List.getElem?_eq_some_iff.1 found).1
      rw [groups_of_short few, Nat.div_eq_of_lt (by omega), Nat.add_zero]
      exact take_drop_hexOfBytes found
  | append first rest whole more induction =>
      have eight : (hexOfBytes first).length = 8 := by
        rw [length_hexOfBytes, whole]
      rw [groups_append whole more]
      rcases Nat.lt_or_ge index 4 with here | later
      · rw [List.getElem?_append_left (by omega)] at found
        rw [Nat.div_eq_of_lt here, Nat.add_zero, take_drop_append (by omega)]
        exact take_drop_hexOfBytes found
      · rw [List.getElem?_append_right (by omega), whole] at found
        have column : 2 * index + index / 4 = (hexOfBytes first).length
            + (2 * (index - 4) + (index - 4) / 4 + 1) := by
          omega
        rw [column, ← List.drop_drop, List.drop_left, List.drop_succ_cons]
        exact induction found

/-- Whether a text shows some bytes, at most sixteen of them, at an address. -/
structure IsLine (address : Address) (bytes : List UInt8)
    (text : List Char) : Prop where
  address : WritesHex 8 (text.take 8) address.toNat
  addressGap : (text.drop 8).take 2 = [' ', ' ']
  digits : ((text.drop 10).take 35).filter
    (fun character => decide (character ≠ ' ')) = hexOfBytes bytes
  columns : ∀ index byte, bytes[index]? = some byte →
    WritesHex 2 ((text.drop (10 + 2 * index + index / 4)).take 2) byte.toNat
  digitsGap : (text.drop 45).take 2 = [' ', ' ']
  length : text.length = 47 + bytes.length
  characters : ∀ index byte, bytes[index]? = some byte → ∃ character,
    text[47 + index]? = some character
    ∧ if 0x21 ≤ byte.toNat ∧ byte.toNat ≤ 0x7e then
      character.toNat = byte.toNat else character = '.'

theorem toNat_printed (byte : UInt8) :
    if 0x21 ≤ byte.toNat ∧ byte.toNat ≤ 0x7e then
      (printed byte).toNat = byte.toNat
    else printed byte = '.' := by
  split
  case isTrue visible =>
      have itself : printed byte = charOfByte byte := by
        simp [printed, charOfByte, visible]
      rw [itself, toNat_charOfByte]
  case isFalse hidden => simp [printed, hidden]

theorem length_padded (few : bytes.length ≤ 16) :
    (padRight byteColumns (groups bytes)).length = 35 := by
  rw [length_padRight]
  apply Nat.max_eq_left
  rcases eq_or_ne bytes [] with rfl | nonempty
  · simp [groups, chunks]
  · rw [length_groups nonempty, byteColumns]
    omega

/-- The columns at which an address, some digits and some characters stand, with
gaps of two columns between. -/
structure LaidOut (text address digits characters : List Char) : Prop where
  address : text.take 8 = address
  addressGap : (text.drop 8).take 2 = [' ', ' ']
  digits : text.drop 10 = digits ++ ([' ', ' '] ++ characters)
  digitsGap : (text.drop 45).take 2 = [' ', ' ']
  characters : text.drop 47 = characters

theorem laidOut_of_append {text address digits characters : List Char}
    (eight : address.length = 8) (wide : digits.length = 35)
    (split : text = address ++ [' ', ' '] ++ digits ++ [' ', ' ']
      ++ characters) : LaidOut text address digits characters := by
  have body : text.drop 10 = digits ++ ([' ', ' '] ++ characters) := by
    simp [split, List.drop_append, eight]
  have tail : text.drop 45 = [' ', ' '] ++ characters := by
    calc
      text.drop 45 = (text.drop 10).drop 35 := by rw [List.drop_drop]
      _ = [' ', ' '] ++ characters := by rw [body, List.drop_left' wide]
  refine ⟨?_, ?_, body, ?_, ?_⟩
  · simp [split, ← eight]
  · simp [split, eight]
  · rw [tail]
    rfl
  · calc
      text.drop 47 = (text.drop 45).drop 2 := by rw [List.drop_drop]
      _ = characters := by rw [tail]; rfl

theorem laidOut_line (address : Address) (few : bytes.length ≤ 16) :
    LaidOut (line address bytes) address.render.toList
      (padRight byteColumns (groups bytes)) (bytes.map printed) := by
  have eight : address.render.toList.length = 8 := by
    simp [Address.render, length_hexDigits]
  exact laidOut_of_append eight (length_padded few) rfl

theorem isLine_line (address : Address) (few : bytes.length ≤ 16) :
    IsLine address bytes (line address bytes) := by
  have laid := laidOut_line address few
  have wide := length_padded few
  refine ⟨?_, laid.addressGap, ?_, ?_, laid.digitsGap, ?_, ?_⟩
  · rw [laid.address, Address.render, String.toList_ofList]
    exact writesHex_hexDigits 7 address.toNat_lt
  · rw [laid.digits, List.take_left' wide, padRight, List.filter_append,
      filter_groups]
    simp
  · intro index byte found
    have inside := (List.getElem?_eq_some_iff.1 found).1
    have enough : 2 * index + index / 4 + 2 ≤ (groups bytes).length := by
      rw [length_groups (List.ne_nil_of_length_pos (by omega))]
      omega
    have written := writesHex_hexDigits 1 byte.toNat_lt
    rw [Nat.add_assoc, ← List.drop_drop, laid.digits, padRight,
      List.append_assoc, take_drop_append enough, take_drop_groups found]
    exact written
  · simp only [line, List.length_append, List.length_map, wide, Address.render,
      String.toList_ofList, length_hexDigits, List.length_cons, List.length_nil]
  · intro index byte found
    refine ⟨printed byte, ?_, toNat_printed byte⟩
    rw [← List.getElem?_drop, laid.characters, List.getElem?_map, found]
    rfl

theorem getElem?_lines (base : Address) (bytes : List UInt8) (number : Nat) :
    (lines base bytes)[number]? = if 16 * number < bytes.length then
        some (String.ofList (line (.ofNat (base.toNat + 16 * number))
          ((bytes.drop (16 * number)).take 16)))
      else none := by
  have place : base + UInt32.ofNat number * UInt32.ofNat lineBytes
      = .ofNat (base.toNat + 16 * number) :=
    base.add_multiple number lineBytes
  rw [lines, List.getElem?_map, List.getElem?_zipIdx,
    getElem?_chunks (by decide : 0 < lineBytes), lineBytes]
  split
  case isTrue inside => simp [← place, lineBytes]
  case isFalse outside => rfl

def digitsOf (line : String) : List Char :=
  ((line.toList.drop 10).take 35).filter
    (fun character => decide (character ≠ ' '))

/-- The bytes that digits write, two for each byte. -/
def bytesOfHex? : List Char → Option (List UInt8)
  | [] => some []
  | [_] => none
  | high :: low :: rest =>
      (digitsValue 16 [high, low]).bind fun value =>
        (bytesOfHex? rest).map fun bytes => .ofNat value :: bytes

/-- The bytes that the lines of a hexdump show. -/
def readBytes? (lines : List String) : Option (List UInt8) :=
  bytesOfHex? (lines.flatMap digitsOf)

/-- The address at which a hexdump starts. -/
def readBase? (lines : List String) : Option Address :=
  lines.head?.bind fun line => Address.parse? (line.toList.take 8)

theorem bytesOfHex?_hexOfBytes (bytes : List UInt8) :
    bytesOfHex? (hexOfBytes bytes) = some bytes := by
  induction bytes with
  | nil => rfl
  | cons byte rest induction =>
      have number := (writesHex_hexDigits 1 byte.toNat_lt).number
      have read := (digitsValue_eq_some_iff (Nat.le_refl 16)).2 number
      have two : hexDigits digit 2 byte.toNat
          = [digit (byte.toNat / 16 % 16), digit (byte.toNat % 16)] := rfl
      have first : hexOfBytes (byte :: rest) = hexDigits digit 2 byte.toNat
          ++ hexOfBytes rest := rfl
      rw [two] at read first
      rw [first, List.cons_append, List.singleton_append, bytesOfHex?, read,
        induction, Option.bind_some,
        Option.map_some, UInt8.ofNat_toNat]

theorem flatMap_digitsOf_lines (base : Address) (bytes : List UInt8) :
    (lines base bytes).flatMap digitsOf = hexOfBytes bytes := by
  have each : ∀ piece ∈ (chunks lineBytes bytes).zipIdx,
      digitsOf (String.ofList
        (line (base + UInt32.ofNat piece.2 * UInt32.ofNat lineBytes) piece.1))
        = hexOfBytes piece.1 := by
    intro piece member
    have few :=
      length_le_of_mem_chunks (by decide) (List.fst_mem_of_mem_zipIdx member)
    rw [digitsOf, String.toList_ofList]
    exact (isLine_line _ few).digits
  calc
    (lines base bytes).flatMap digitsOf
        = (chunks lineBytes bytes).zipIdx.flatMap fun piece =>
          hexOfBytes piece.1 := by
      rw [lines, List.flatMap_map]
      exact List.flatMap_congr each
    _ = (((chunks lineBytes bytes).zipIdx.map Prod.fst).map
      hexOfBytes).flatten := by
      rw [List.flatMap_def, List.map_map]
      rfl
    _ = hexOfBytes bytes := by
      rw [List.zipIdx_map_fst, ← hexOfBytes_flatten, flatten_chunks]

theorem readBytes?_lines (base : Address) (bytes : List UInt8) :
    readBytes? (lines base bytes) = some bytes := by
  rw [readBytes?, flatMap_digitsOf_lines, bytesOfHex?_hexOfBytes]

theorem readBase?_lines (base : Address) (nonempty : bytes ≠ []) :
    readBase? (lines base bytes) = some base := by
  have positive := List.length_pos_iff.2 nonempty
  have first := getElem?_lines base bytes 0
  rw [Nat.mul_zero, if_pos positive, Nat.add_zero, Address.ofNat_toNat] at first
  have shown :=
    (isLine_line base (List.length_take_le 16 (bytes.drop 0))).address
  rw [readBase?, List.head?_eq_getElem?, first, Option.bind_some,
    String.toList_ofList]
  apply Address.Shows.parse?_eq_some
  apply Address.Shows.bare
  · rw [shown.length]
    decide
  · exact shown.number

/-- A hexdump has a line for every sixteen bytes, the last sixteen begun.  On
each line every byte has its columns, and the number of the line times sixteen,
which is added to the base, fits in 32 bits.  The bytes are read back from the
lines, and so is the base if there are any. -/
theorem lines_lose_nothing (base : Address) (bytes : List UInt8)
    (addressed : bytes.length ≤ wordBound) :
    (lines base bytes).length = (bytes.length + 15) / 16
      ∧ (∀ number, number < (lines base bytes).length →
        (∃ text, (lines base bytes)[number]? = some text
          ∧ IsLine (.ofNat (base.toNat + 16 * number))
            ((bytes.drop (16 * number)).take 16) text.toList)
        ∧ (UInt32.ofNat number).toNat = number
        ∧ (UInt32.ofNat number * UInt32.ofNat lineBytes).toNat = number * 16)
      ∧ readBytes? (lines base bytes) = some bytes
      ∧ (bytes ≠ [] → readBase? (lines base bytes) = some base) := by
  have count : (lines base bytes).length = (bytes.length + 15) / 16 := by
    simp [lines, length_chunks_lineBytes]
  refine ⟨count, ?_, readBytes?_lines base bytes, readBase?_lines base⟩
  intro number inside
  have begun : 16 * number < bytes.length := by omega
  rw [wordBound] at addressed
  have small : (UInt32.ofNat number).toNat = number :=
    UInt32.toNat_ofNat_of_lt' (by
    rw [UInt32.size]
    omega)
  refine ⟨⟨_, (getElem?_lines base bytes number).trans (if_pos begun), ?_⟩,
    small, ?_⟩
  · rw [String.toList_ofList]
    exact isLine_line _ (List.length_take_le _ _)
  · rw [UInt32.toNat_mul, small]
    exact Nat.mod_eq_of_lt (by simp [lineBytes]; omega)

/-- Twenty bytes from sixteen below the end of the address space on: the second
line is at address zero. -/
theorem lines_lose_nothing_wrapping :
    let bytes := (List.range 20).map UInt8.ofNat
    let lines := lines (.ofNat 4294967280) bytes
    bytes.length ≤ wordBound ∧ lines.length = 2
      ∧ (∃ text, lines[1]? = some text
        ∧ IsLine (.ofNat 0) [16, 17, 18, 19] text.toList)
      ∧ readBytes? lines = some bytes
      ∧ readBase? lines = some (.ofNat 4294967280) := by
  intro bytes
  have addressed : bytes.length ≤ wordBound := by decide
  obtain ⟨count, shown, readBack, base⟩ :=
    lines_lose_nothing (.ofNat 4294967280) bytes addressed
  obtain ⟨second, -⟩ := shown 1 (by rw [count]; decide)
  refine ⟨addressed, ?_, second, readBack, base (by decide)⟩
  rw [count]
  decide

end Hexdump

end DelphiRtti
