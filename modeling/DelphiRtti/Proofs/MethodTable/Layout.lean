import DelphiRtti.MethodTable
import DelphiRtti.Proofs.Address.Arithmetic

/-!
# The layout of tables

Where the slots of a table lie in memory, and that a pointer always
has a place in a structure.
-/

namespace DelphiRtti

open Text

/-- The place of a slot, around the end of the address space too. -/
def MethodTable.slotPlace (base : Address) (number : Nat) : Address :=
  .ofNat (base.toNat + 4 * number)

theorem MethodTable.slotAddress_eq (base : Address) (index : Nat) :
    slotAddress base index = .ofNat (base.toNat + 4 * index) :=
  base.add_multiple index 4

/-- A structure to which a pointer was added. -/
def Structure.withPointer (layout : Structure) (target : DataType)
    (name comment : String) : Structure :=
  ⟨layout.name, layout.components
    ++ [layout.nextComponent target.pointerTo name comment]⟩

theorem Structure.add_pointerTo (layout : Structure) (target : DataType)
    (name comment : String) :
    layout.add target.pointerTo name comment
      = .ok (layout.withPointer target name comment) := by
  simp [add, withPointer, DataType.pointerTo, DataType.length?]

theorem Component.totalLength_append (left right : List Component) :
    totalLength (left ++ right) = totalLength left + totalLength right := by
  induction left with
  | nil => rw [List.nil_append, totalLength, UInt32.zero_add]
  | cons component rest induction =>
      obtain ⟨offset, dataType, name, comment⟩ := component
      rw [List.cons_append, totalLength, totalLength, induction,
        UInt32.add_assoc]

theorem Structure.length_withPointer (layout : Structure) (target : DataType)
    (name comment : String) :
    (layout.withPointer target name comment).length
      = layout.length + pointerSize := by
  have pointer :
      Component.totalLength [layout.nextComponent target.pointerTo name comment]
        = pointerSize := by
    simp [Component.totalLength, nextComponent, DataType.pointerTo,
      DataType.length?]
  obtain ⟨title, components⟩ := layout
  rw [withPointer, length, Component.totalLength_append, pointer, length]

theorem MethodTable.instanceLayout_eq (className : String) (table : DataType) :
    instanceLayout className table
      = .ok ((Structure.named className).withPointer table "vt"
        "Virtual Function Table") :=
  Structure.add_pointerTo ..

end DelphiRtti
