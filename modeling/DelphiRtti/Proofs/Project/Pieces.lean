import DelphiRtti.Proofs.Memory.Reading
import DelphiRtti.Proofs.Project.Frames
import DelphiRtti.Proofs.Project.Mapped

/-!
# Reading in pieces

The bytes of one read are those of two reads in a row, for a region holds them
side by side.  A region may reach past the last address, but an address cannot:
there the address of the second read wraps around and is another place.
-/

namespace DelphiRtti

open Text

theorem Project.read_of_createString {project next : Project} {start : Address}
    (placed : project.createData start .pascalString = .ok next) :
    ∃ (length : UInt8) (bytes : List UInt8),
      project.image.readByte start = .ok length
      ∧ project.image.read start (1 + length.toNat) = .ok bytes := by
  obtain ⟨length, bytes, sized, readable, -, -⟩ := createData_eq_ok placed
  rw [placedLength_pascalString] at sized
  cases first : project.image.readByte start with
  | error failure => simp [first] at sized
  | ok byte =>
      rw [first] at sized
      cases sized
      rw [toNat_stringLength] at readable
      exact ⟨byte, bytes, rfl, readable⟩

namespace Image

variable {image : Image} {start : Address} {size : Nat} {bytes : List UInt8}

theorem Apart.read_eq_cons (apart : image.Apart) {first : UInt8}
    (single : image.readByte start = .ok first)
    (readable : image.read start (1 + size) = .ok bytes) :
    bytes = first :: bytes.drop 1 := by
  have front := apart.read_front readable
  rw [read_one_eq, single] at front
  calc
    bytes = bytes.take 1 ++ bytes.drop 1 := (List.take_append_drop 1 bytes).symm
    _ = [first] ++ bytes.drop 1 := by rw [← Except.ok.inj front]

/-- In an image that regions were offered to, the bytes of one read are those
of two reads in a row, if the second one is of nothing or its address does
not wrap around.  So it is with the length byte of a string that is placed
and the bytes of its text. -/
theorem read_in_pieces (offered : List Region) :
    let image := offerAll offered .empty
    (∀ (start : Address) (count : UInt32) (size : Nat) (bytes : List UInt8),
        image.read start (count.toNat + size) = .ok bytes →
        ∃ front rest, bytes = front ++ rest
          ∧ image.read start count.toNat = .ok front
          ∧ (size = 0 ∨ start.toNat + count.toNat < wordBound →
            image.read (start + count) size = .ok rest))
      ∧ ∀ (project next : Project) (start : Address), project.image = image →
        project.createData start .pascalString = .ok next →
        ∃ length text, image.readByte start = .ok length
          ∧ image.read start (1 + length.toNat) = .ok (length :: text)
          ∧ (length.toNat = 0 ∨ start.toNat + 1 < wordBound →
            image.read (start + (1 : UInt32)) length.toNat = .ok text) := by
  intro image
  have apart : image.Apart := apart_offerAll offered
  constructor
  · intro start count size bytes readable
    exact ⟨_, _, (List.take_append_drop count.toNat bytes).symm,
      apart.read_front readable,
      apart.read_rest readable⟩
  · intro project next start same placed
    obtain ⟨length, bytes, single, readable⟩ :=
      Project.read_of_createString placed
    rw [same] at single readable
    refine ⟨length, bytes.drop 1, single, ?_,
      fun reached => apart.read_rest readable reached⟩
    rw [← apart.read_eq_cons single readable]
    exact readable

end Image

def Region.soleName : Region :=
  ⟨"name", .ofNat 4096, #[3, 0x54, 0x41, 0x42], ⟨true, false, false⟩⟩

/-- Sixteen bytes, eight of them past the last address. -/
def Region.overhanging : Region :=
  ⟨"top", .ofNat 4294967288, #[1, 2, 3, 4, 5, 6, 7, 8, 9, 10, 11, 12, 13, 14,
    15, 16], ⟨true, false, false⟩⟩

namespace Image

theorem read_in_pieces_soleName :
    let image := offerAll [Region.soleName] .empty
    image.read (.ofNat 4096) (2 + 2) = .ok [3, 0x54, 0x41, 0x42]
      ∧ (∃ front rest, [3, 0x54, 0x41, 0x42] = front ++ rest
        ∧ image.read (.ofNat 4096) 2 = .ok front
        ∧ image.read (.ofNat 4098) 2 = .ok rest)
      ∧ ∃ next, (Project.ofImage image).createData
        (.ofNat 4096) .pascalString = .ok next
        ∧ ∃ length text, image.readByte (.ofNat 4096) = .ok length
          ∧ image.read (.ofNat 4096) (1 + length.toNat) = .ok (length :: text)
          ∧ image.read (.ofNat 4097) length.toNat = .ok text := by
  intro image
  have accepted : ((Project.ofImage image).createData
      (.ofNat 4096) .pascalString).toOption.isSome = true := by
    decide +kernel
  obtain ⟨pieces, strings⟩ := read_in_pieces [Region.soleName]
  obtain ⟨front, rest, split, isFront, isRest⟩ := pieces (.ofNat 4096) 2 2 _ rfl
  cases placed :
    (Project.ofImage image).createData (.ofNat 4096) .pascalString with
  | error failure =>
      rw [placed] at accepted
      cases accepted
  | ok next =>
      obtain ⟨length, text, isLength, isString, isText⟩ :=
        strings _ next (.ofNat 4096) rfl placed
      exact ⟨rfl, ⟨front, rest, split, isFront, isRest (.inr (by decide))⟩,
        next, rfl, length, text, isLength, isString, isText (.inr (by decide))⟩

/-- Where the address of the second read wraps around, nothing may be mapped,
though the bytes of both reads are. -/
theorem read_in_pieces_fails :
    let image := offerAll [Region.overhanging] .empty
    image.read (.ofNat 4294967292) (4 + 4) = .ok [5, 6, 7, 8, 9, 10, 11, 12]
      ∧ image.read (.ofNat 4294967292) 4 = .ok [5, 6, 7, 8]
      ∧ image.read (Address.ofNat 4294967292 + (4 : UInt32)) 4
        = .error (.unmapped (.ofNat 0)) := by
  intro image
  exact ⟨rfl, rfl, rfl⟩

end Image

end DelphiRtti
