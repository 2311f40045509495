import DelphiRtti.Address
import DelphiRtti.DataType
import DelphiRtti.Namespace

/-!
# Functions, labels and symbols

A function is known by its position in the project's list, which is the order of
creation.  A symbol is what an address is called: the function that starts there
or else the first label.
-/

namespace DelphiRtti

structure FunctionId where
  index : UInt32
deriving DecidableEq, Inhabited

namespace FunctionId

def ofPosition (position : Nat) : FunctionId := ⟨UInt32.ofNat position⟩

def position (id : FunctionId) : Nat := id.index.toNat

def render (id : FunctionId) : String :=
  "FunctionId(" ++ String.ofList (Text.decimal id.position) ++ ")"

end FunctionId

structure FunctionRecord where
  entry : Address
  name : String
  parent : NamespaceId
  signature : Signature
  source : Source
deriving DecidableEq, Inhabited

/-- The function type of a function, under the function's own name. -/
def FunctionRecord.definition (record : FunctionRecord) : FunctionDefinition :=
  ⟨record.name, record.signature⟩

inductive SymbolKind where
  | label
  | function
  | imported
deriving DecidableEq, Inhabited

/-- A name filed at an address that is no function. -/
structure Label where
  name : String
  parent : NamespaceId
  kind : SymbolKind
  source : Source
deriving DecidableEq, Inhabited

structure Symbol where
  name : String
  address : Address
  kind : SymbolKind
  source : Source
  /-- The qualified name of the namespace it is filed under, unless
  that is the global one. -/
  parent : Option String
deriving DecidableEq, Inhabited

/-- The name of a symbol after that of its namespace. -/
def Symbol.displayName (symbol : Symbol) : String :=
  match symbol.parent with
  | some parent => parent ++ "::" ++ symbol.name
  | none => symbol.name

end DelphiRtti
