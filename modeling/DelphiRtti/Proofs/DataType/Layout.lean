import Mathlib.Data.List.Chain
import DelphiRtti.DataType
import DelphiRtti.Text.Digits

/-!
# How members are laid out in a structure

A type takes up an exact number of bytes, however many they are, and its length
is this number modulo 2^32.  A structure is made by offering it members one
after the other: those of a fixed length are appended, and the others are
refused.  As long as all of them together take up less than 2^32 bytes, every
component begins exactly where the one before it ends, and the structure is as
long as its components are together.
-/

namespace DelphiRtti

open Text

mutual

/-- The exact number of bytes that a type takes up in a structure.  One without
a fixed length takes up none. -/
def DataType.size : DataType → Nat
  | .pascalString => 0
  | .pointer _ size => size.toNat
  | .function _ => 0
  | .struct layout => layout.size

def Structure.size : Structure → Nat
  | ⟨_, components⟩ => Component.totalSize components

def Component.totalSize : List Component → Nat
  | [] => 0
  | ⟨_, dataType, _, _⟩ :: rest => dataType.size + Component.totalSize rest

end

mutual

/-- Lengths are exact sizes modulo 2^32, through all levels of nesting. -/
theorem DataType.toNat_length (dataType : DataType) :
    (dataType.length?.getD 0).toNat = dataType.size % wordBound := by
  cases dataType with
  | pascalString => simp [DataType.length?, DataType.size]
  | pointer target size =>
      have fits : size.toNat < wordBound := size.toNat_lt
      simp [DataType.length?, DataType.size, Nat.mod_eq_of_lt fits]
  | function definition => simp [DataType.length?, DataType.size]
  | struct layout =>
      simp only [DataType.length?, DataType.size, Option.getD_some]
      exact Structure.toNat_length layout

theorem Structure.toNat_length (layout : Structure) :
    layout.length.toNat = layout.size % wordBound := by
  cases layout with
  | mk name components =>
      simp only [Structure.length, Structure.size]
      exact Component.toNat_totalLength components

theorem Component.toNat_totalLength (components : List Component) :
    (Component.totalLength components).toNat
    = Component.totalSize components % wordBound := by
  cases components with
  | nil => simp [Component.totalLength, Component.totalSize]
  | cons component rest =>
      obtain ⟨offset, dataType, name, comment⟩ := component
      have first := DataType.toNat_length dataType
      have others := Component.toNat_totalLength rest
      simp only [Component.totalLength, Component.totalSize, UInt32.toNat_add,
        first, others]
      exact (Nat.add_mod _ _ _).symm

end

namespace Component

variable {component : Component} {components : List Component} {position : Nat}

theorem totalSize_cons
    (component : Component) (rest : List Component) :
    totalSize (component :: rest)
      = component.dataType.size + totalSize rest := by
  cases component
  simp [totalSize]

theorem totalSize_append (left right : List Component) :
    totalSize (left ++ right) = totalSize left + totalSize right := by
  induction left with
  | nil => simp [totalSize]
  | cons component rest induction =>
      simp [totalSize_cons, induction, Nat.add_assoc]

theorem totalSize_take_succ (found : components[position]? = some component) :
    totalSize (components.take (position + 1))
      = totalSize (components.take position) + component.dataType.size := by
  simp [List.take_add_one, found, totalSize_append, totalSize_cons, totalSize]

end Component

theorem Structure.size_eq_totalSize (layout : Structure) :
    layout.size = Component.totalSize layout.components := by
  cases layout
  simp [size]

/-- What can be offered to a structure as its next component. -/
structure Member where
  dataType : DataType
  name : String
  comment : String
deriving DecidableEq

def Component.member (component : Component) : Member :=
  ⟨component.dataType, component.name, component.comment⟩

def DataType.isSized : DataType → Bool
  | .pointer .. => true
  | .struct _ => true
  | .pascalString => false
  | .function _ => false

namespace Member

def totalSize : List Member → Nat
  | [] => 0
  | member :: rest => member.dataType.size + totalSize rest

theorem totalSize_append (left right : List Member) :
    totalSize (left ++ right) = totalSize left + totalSize right := by
  induction left with
  | nil => simp [totalSize]
  | cons member rest induction => simp [totalSize, induction, Nat.add_assoc]

end Member

namespace DataType

variable {dataType : DataType}

theorem isSized_eq_false_iff :
    dataType.isSized = false
      ↔ dataType = .pascalString
        ∨ ∃ definition, dataType = .function definition := by
  cases dataType <;> simp [isSized]

theorem length?_of_sized (sized : dataType.isSized = true) :
    ∃ length, dataType.length? = some length := by
  cases dataType <;> simp [isSized, length?] at sized ⊢

theorem length?_of_unsized (unsized : dataType.isSized = false) :
    dataType.length? = none := by
  cases dataType <;> simp [isSized, length?] at unsized ⊢

theorem size_of_unsized (unsized : dataType.isSized = false) :
    dataType.size = 0 := by
  cases dataType <;> simp [isSized, size] at unsized ⊢

theorem toNat_length_of_lt (small : dataType.size < wordBound) :
    (dataType.length?.getD 0).toNat = dataType.size := by
  rw [toNat_length, Nat.mod_eq_of_lt small]

end DataType

namespace Structure

variable {layout : Structure} {member : Member}

def offer (layout : Structure) (member : Member) :
    Except TypeError Unit × Structure :=
  match layout.add member.dataType member.name member.comment with
  | .ok longer => (.ok (), longer)
  | .error failure => (.error failure, layout)

def offerAll : List Member → Structure → Structure
  | [], layout => layout
  | member :: later, layout => offerAll later (layout.offer member).2

def extended (layout : Structure) (member : Member) : Structure :=
  ⟨layout.name, layout.components
    ++ [layout.nextComponent member.dataType member.name member.comment]⟩

theorem offer_of_sized (sized : member.dataType.isSized = true)
    (layout : Structure) :
    layout.offer member = (.ok (), layout.extended member) := by
  obtain ⟨length, known⟩ := DataType.length?_of_sized sized
  simp [offer, add, known, extended]

theorem offer_of_unsized (unsized : member.dataType.isSized = false)
    (layout : Structure) :
    layout.offer member = (.error (.unsized member.dataType.name), layout) := by
  simp [offer, add, DataType.length?_of_unsized unsized]

theorem size_extended (layout : Structure) (member : Member) :
    (layout.extended member).size = layout.size + member.dataType.size := by
  simp [size_eq_totalSize, extended, nextComponent, Component.totalSize_append,
    Component.totalSize]

/-- A refused member takes up nothing, too. -/
theorem size_offer (layout : Structure) (member : Member) :
    (layout.offer member).2.size = layout.size + member.dataType.size := by
  cases sized : member.dataType.isSized with
  | true => simp [offer_of_sized sized, size_extended]
  | false => simp [offer_of_unsized sized, DataType.size_of_unsized sized]

theorem offerAll_append (earlier later : List Member) (layout : Structure) :
    offerAll (earlier ++ later) layout
      = offerAll later (offerAll earlier layout) := by
  induction earlier generalizing layout with
  | nil => rfl
  | cons member rest induction => exact induction (layout.offer member).2

/-- The members of a fixed length become components in the order in
which they are offered. -/
theorem members_offerAll (offered : List Member) (layout : Structure) :
    (offerAll offered layout).components.map Component.member
      = layout.components.map Component.member ++ offered.filter fun member =>
        member.dataType.isSized := by
  induction offered generalizing layout with
  | nil => simp [offerAll]
  | cons member later induction =>
      rw [offerAll, induction]
      cases sized : member.dataType.isSized with
      | true => simp [offer_of_sized sized, sized, extended, nextComponent,
        Component.member]
      | false => simp [offer_of_unsized sized, sized]

theorem prefix_offer (layout : Structure) (member : Member) :
    layout.components <+: (layout.offer member).2.components := by
  cases sized : member.dataType.isSized with
  | true => simp [offer_of_sized sized, extended]
  | false => simp [offer_of_unsized sized]

/-- Components are never altered or moved by later offers. -/
theorem prefix_offerAll (offered : List Member) (layout : Structure) :
    layout.components <+: (offerAll offered layout).components := by
  induction offered generalizing layout with
  | nil => exact List.prefix_refl _
  | cons member later induction =>
      exact (layout.prefix_offer member).trans (induction _)

/-- Whether every component lies behind exactly those before it, and
lengths are exact. -/
structure Contiguous (layout : Structure) : Prop where
  measured : ∀ component ∈ layout.components, ∃ length,
    component.dataType.length? = some length
    ∧ length.toNat = component.dataType.size
  offset : ∀ position component, layout.components[position]? = some component →
    component.offset.toNat
      = Component.totalSize (layout.components.take position)
  length : layout.length.toNat = Component.totalSize layout.components

theorem contiguous_named (name : String) : (named name).Contiguous where
  measured := by simp [named]
  offset := by simp [named]
  length := by
    have sum := (named name).toNat_length
    simpa [size_eq_totalSize, named, Component.totalSize] using sum

theorem Contiguous.extended
    (contiguous : layout.Contiguous) (sized : member.dataType.isSized = true)
    (small : layout.size + member.dataType.size < wordBound) :
    (layout.extended member).Contiguous := by
  refine ⟨?_, ?_, ?_⟩
  · intro component listed
    rcases List.mem_append.1 listed with old | new
    · exact contiguous.measured component old
    · obtain rfl := List.mem_singleton.1 new
      obtain ⟨length, known⟩ := DataType.length?_of_sized sized
      have measured := DataType.toNat_length_of_lt
        (Nat.lt_of_le_of_lt (Nat.le_add_left _ _) small)
      refine ⟨length, known, ?_⟩
      simpa [known, nextComponent] using measured
  · intro position component found
    by_cases old : position < layout.components.length
    · simp only [Structure.extended, List.getElem?_append_left old] at found
      have before := contiguous.offset position component found
      simpa [Structure.extended,
        List.take_append_of_le_length (Nat.le_of_lt old)] using before
    · have inside := (List.getElem?_eq_some_iff.1 found).1
      simp only [Structure.extended, List.length_append,
        List.length_singleton] at inside
      obtain rfl : position = layout.components.length := by omega
      obtain rfl : layout.nextComponent member.dataType member.name
          member.comment = component := by
        simpa [Structure.extended] using found
      simpa [Structure.extended, nextComponent] using contiguous.length
  · have fits : (layout.extended member).size < wordBound := by
      simpa [size_extended] using small
    rw [toNat_length, Nat.mod_eq_of_lt fits, size_eq_totalSize]

theorem Contiguous.offer (contiguous : layout.Contiguous)
    (small : layout.size + member.dataType.size < wordBound) :
    (layout.offer member).2.Contiguous := by
  cases sized : member.dataType.isSized with
  | true =>
      rw [offer_of_sized sized]
      exact contiguous.extended sized small
  | false =>
      rw [offer_of_unsized sized]
      exact contiguous

/-- As long as all members together take up less than 2^32 bytes, the
structure stays contiguous. -/
theorem Contiguous.offerAll (contiguous : layout.Contiguous)
    (offered : List Member)
    (small : layout.size + Member.totalSize offered < wordBound) :
    (offerAll offered layout).Contiguous := by
  induction offered generalizing layout with
  | nil => exact contiguous
  | cons member later induction =>
      rw [Member.totalSize] at small
      apply induction
      · apply contiguous.offer
        omega
      · rw [size_offer]
        omega

theorem Contiguous.touching (contiguous : layout.Contiguous) :
    layout.components.IsChain fun component next =>
      component.offset.toNat + component.dataType.size = next.offset.toNat := by
  apply List.isChain_iff_getElem.2
  intro position inside
  have here := List.getElem?_eq_getElem (Nat.lt_of_succ_lt inside)
  have after := List.getElem?_eq_getElem inside
  rw [contiguous.offset _ _ here, contiguous.offset _ _ after,
    Component.totalSize_take_succ here]

/-- An offer is refused exactly if the type of the member is a string or a
function, and then changes nothing; every other member becomes the last
component.  If all members that are offered to a new structure take up
less than 2^32 bytes together, then after each offer the lengths are
exact, every component lies behind exactly those before it and ends where
the next one begins, and the structure is as long as its components.  The
components are the members of a fixed length in the order of the offers,
and no later offer alters one. -/
theorem members_laid_out_contiguously (name : String) (offered : List Member)
    (small : Member.totalSize offered < wordBound) :
    (∀ (layout : Structure) (member : Member),
        ((∃ failure, (layout.offer member).1 = .error failure)
          ↔ member.dataType = .pascalString ∨ ∃ definition,
            member.dataType = .function definition)
        ∧ (∀ failure, (layout.offer member).1 = .error failure →
          failure = .unsized member.dataType.name
            ∧ (layout.offer member).2 = layout)
        ∧ ((layout.offer member).1 = .ok () →
          (layout.offer member).2 = layout.extended member))
      ∧ ∀ earlier later, offered = earlier ++ later →
        let layout := offerAll earlier (named name)
        layout.Contiguous
          ∧ layout.components.IsChain (fun component next =>
            component.offset.toNat + component.dataType.size
              = next.offset.toNat)
          ∧ layout.components.map Component.member
            = (earlier.filter fun member => member.dataType.isSized)
          ∧ layout.components
            <+: (offerAll offered (named name)).components := by
  constructor
  · intro layout member
    rw [← DataType.isSized_eq_false_iff]
    cases sized : member.dataType.isSized with
    | true => simp [offer_of_sized sized]
    | false => simp [offer_of_unsized sized]
  · rintro earlier later rfl layout
    have empty : (named name).size = 0 := by
      simp [named, size, Component.totalSize]
    have fits : (named name).size + Member.totalSize earlier < wordBound := by
      rw [Member.totalSize_append] at small
      omega
    have contiguous : layout.Contiguous :=
      (contiguous_named name).offerAll earlier fits
    refine ⟨contiguous, contiguous.touching, ?_, ?_⟩
    · exact members_offerAll earlier (named name)
    · rw [offerAll_append]
      exact layout.prefix_offerAll later

end Structure

/-- A pointer, a structure within a structure and a pointer of almost 2^32
bytes, with a string and a function between them. -/
def Member.mixed : List Member :=
  [⟨.pointer .pascalString 4, "Owner", ""⟩, ⟨.pascalString, "Name", ""⟩,
    ⟨.struct ⟨"TOuter", [⟨0, .pointer .pascalString 6, "Method", ""⟩,
      ⟨6, .struct ⟨"TInner", [⟨0, .pointer .pascalString 1, "Flag", ""⟩]⟩,
        "Inner", ""⟩]⟩, "Outer", ""⟩,
    ⟨.function ⟨"Create", .undefined⟩, "Create", ""⟩,
    ⟨.pointer .pascalString 4294967284, "Rest", ""⟩]

namespace Structure

theorem members_laid_out_contiguously_mixed :
    Member.totalSize Member.mixed < wordBound
      ∧ (offerAll Member.mixed (named "TMixed")).components.map Component.offset
        = [0, 4, 11]
      ∧ (offerAll Member.mixed (named "TMixed")).length = 4294967295
      ∧ (offerAll Member.mixed (named "TMixed")).Contiguous := by
  have small : Member.totalSize Member.mixed < wordBound := by decide
  obtain ⟨contiguous, -, -, -⟩ :=
    (members_laid_out_contiguously "TMixed" Member.mixed small).2 Member.mixed
      [] (List.append_nil _).symm
  exact ⟨small, by decide, by decide, contiguous⟩

end Structure

end DelphiRtti
