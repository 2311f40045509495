/-!
# Data types

The shapes that a class needs: the length-prefixed string of its name, pointers,
function definitions and structures.  Types nest, so equality and length are
defined along the mutual recursion.
-/

namespace DelphiRtti

structure Parameter where
  typeName : String
  name : String
deriving DecidableEq, Inhabited

structure Signature where
  returnType : String
  callingConvention : String
  parameters : List Parameter
deriving DecidableEq

/-- What is known of a function that was only found. -/
def Signature.undefined : Signature := ⟨"undefined", "unknown", []⟩

instance : Inhabited Signature := ⟨.undefined⟩

structure FunctionDefinition where
  name : String
  signature : Signature
deriving DecidableEq, Inhabited

mutual

inductive DataType where
  /-- One unsigned length byte and as many bytes of content. -/
  | pascalString
  | pointer (target : DataType) (size : UInt32)
  | function (definition : FunctionDefinition)
  | struct (layout : Structure)

/-- A structure: a name and its components in order. -/
structure Structure where
  name : String
  components : List Component

structure Component where
  offset : UInt32
  dataType : DataType
  name : String
  comment : String

end

instance : Inhabited DataType := ⟨.pascalString⟩

instance : Inhabited Structure := ⟨⟨"", []⟩⟩

instance : Inhabited Component := ⟨⟨0, .pascalString, "", ""⟩⟩

mutual

def DataType.decEq : (left right : DataType) → Decidable (left = right)
  | .pascalString, .pascalString => .isTrue rfl
  | .pointer target size, .pointer target' size' =>
      match DataType.decEq target target' with
      | .isTrue same =>
          if sameSize : size = size' then .isTrue (by rw [same, sameSize])
          else .isFalse fun equal => sameSize (DataType.pointer.inj equal).2
      | .isFalse different =>
          .isFalse fun equal => different (DataType.pointer.inj equal).1
  | .function definition, .function definition' =>
      if same : definition = definition' then .isTrue (by rw [same])
      else .isFalse fun equal => same (DataType.function.inj equal)
  | .struct layout, .struct layout' =>
      match Structure.decEq layout layout' with
      | .isTrue same => .isTrue (by rw [same])
      | .isFalse different =>
          .isFalse fun equal => different (DataType.struct.inj equal)
  | .pascalString, .pointer .. => .isFalse nofun
  | .pascalString, .function _ => .isFalse nofun
  | .pascalString, .struct _ => .isFalse nofun
  | .pointer .., .pascalString => .isFalse nofun
  | .pointer .., .function _ => .isFalse nofun
  | .pointer .., .struct _ => .isFalse nofun
  | .function _, .pascalString => .isFalse nofun
  | .function _, .pointer .. => .isFalse nofun
  | .function _, .struct _ => .isFalse nofun
  | .struct _, .pascalString => .isFalse nofun
  | .struct _, .pointer .. => .isFalse nofun
  | .struct _, .function _ => .isFalse nofun

def Structure.decEq : (left right : Structure) → Decidable (left = right)
  | ⟨name, components⟩, ⟨name', components'⟩ =>
      match Component.decEqList components components' with
      | .isTrue same =>
          if sameName : name = name' then .isTrue (by rw [same, sameName])
          else .isFalse fun equal => sameName (Structure.mk.inj equal).1
      | .isFalse different =>
          .isFalse fun equal => different (Structure.mk.inj equal).2

def Component.decEq : (left right : Component) → Decidable (left = right)
  | ⟨offset, dataType, name, comment⟩, ⟨offset', dataType', name', comment'⟩ =>
      match DataType.decEq dataType dataType' with
      | .isTrue same =>
          if rest : offset = offset' ∧ name = name' ∧ comment = comment' then
            .isTrue (by rw [same, rest.1, rest.2.1, rest.2.2])
          else
            .isFalse fun equal =>
              rest ⟨(Component.mk.inj equal).1, (Component.mk.inj equal).2.2.1,
                (Component.mk.inj equal).2.2.2⟩
      | .isFalse different =>
          .isFalse fun equal => different (Component.mk.inj equal).2.1

def Component.decEqList :
    (left right : List Component) → Decidable (left = right)
  | [], [] => .isTrue rfl
  | [], _ :: _ => .isFalse nofun
  | _ :: _, [] => .isFalse nofun
  | head :: rest, head' :: rest' =>
      match Component.decEq head head', Component.decEqList rest rest' with
      | .isTrue sameHead, .isTrue sameRest =>
          .isTrue (by rw [sameHead, sameRest])
      | .isFalse different, _ =>
          .isFalse fun equal => different (List.cons.inj equal).1
      | .isTrue _, .isFalse different =>
          .isFalse fun equal => different (List.cons.inj equal).2

end

instance : DecidableEq DataType := DataType.decEq

instance : DecidableEq Structure := Structure.decEq

instance : DecidableEq Component := Component.decEq

def pointerSize : UInt32 := 4

def DataType.pointerTo (target : DataType) : DataType :=
  .pointer target pointerSize

/-- The name of a type; that of a pointer ends in a star. -/
def DataType.name : DataType → String
  | .pascalString => "PascalString255"
  | .pointer target _ => target.name ++ " *"
  | .function definition => definition.name
  | .struct layout => layout.name

mutual

/-- The length in bytes of a type whose length is fixed. -/
def DataType.length? : DataType → Option UInt32
  | .pascalString => none
  | .pointer _ size => some size
  | .function _ => none
  | .struct layout => some layout.length

/-- The length of a structure is the sum of the lengths of its components. -/
def Structure.length : Structure → UInt32
  | ⟨_, components⟩ => Component.totalLength components

def Component.totalLength : List Component → UInt32
  | [] => 0
  | ⟨_, dataType, _, _⟩ :: rest =>
      (dataType.length?).getD 0 + Component.totalLength rest

end

def DataType.isStructure : DataType → Bool
  | .struct _ => true
  | _ => false

def DataType.isPointer : DataType → Bool
  | .pointer .. => true
  | _ => false

def DataType.isFunction : DataType → Bool
  | .function _ => true
  | _ => false

/-- Why a type could not become a member of a structure. -/
inductive TypeError where
  | unsized (name : String)
deriving DecidableEq, Inhabited

def TypeError.message : TypeError → String
  | .unsized name =>
      "Data type " ++ name
        ++ " has no fixed length and cannot be a structure component"

namespace Structure

def named (name : String) : Structure := ⟨name, []⟩

/-- The component that a member of the given type becomes at the end
of a structure. -/
def nextComponent (layout : Structure) (dataType : DataType)
    (name comment : String) : Component :=
  ⟨layout.length, dataType, name, comment⟩

/-- Appends a component at the end of a structure.  Names need not differ. -/
def add (layout : Structure) (dataType : DataType) (name comment : String) :
    Except TypeError Structure :=
  match dataType.length? with
  | none => .error (.unsized dataType.name)
  | some _ =>
      .ok ⟨layout.name, layout.components
        ++ [layout.nextComponent dataType name comment]⟩

end Structure

end DelphiRtti
