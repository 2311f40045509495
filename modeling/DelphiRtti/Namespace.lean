import DelphiRtti.Text.Digits

/-!
# Namespaces

A namespace is known by its position in the project's list.  Position
zero is the global namespace, and every record names the namespace
that it is filed under.
-/

namespace DelphiRtti

structure NamespaceId where
  index : UInt32
deriving DecidableEq, Inhabited

namespace NamespaceId

def global : NamespaceId := ⟨0⟩

def ofPosition (position : Nat) : NamespaceId := ⟨UInt32.ofNat position⟩

def position (id : NamespaceId) : Nat := id.index.toNat

def render (id : NamespaceId) : String :=
  "NamespaceId(" ++ String.ofList (Text.decimal id.position) ++ ")"

end NamespaceId

inductive Source where
  | default
  | analysis
  | imported
  | userDefined
deriving DecidableEq, Inhabited

inductive NamespaceKind where
  | global
  | plain
  | ofClass
  | ofLibrary
deriving DecidableEq, Inhabited

structure NamespaceRecord where
  name : String
  parent : NamespaceId
  kind : NamespaceKind
  source : Source
deriving DecidableEq, Inhabited

def NamespaceRecord.global :
    NamespaceRecord := ⟨"Global", .global, .global, .default⟩

end DelphiRtti
