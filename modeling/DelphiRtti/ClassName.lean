import DelphiRtti.Dialect
import DelphiRtti.RebuildError
import DelphiRtti.Script
import DelphiRtti.Text.Latin

/-!
# Class names and their namespaces

A class name is stored as a length byte and that many bytes, each of which
stands for one character.  The capital form of its first character has to be one
that the dialect accepts.  A class gets a namespace of its own under the global
one, and a class that is there already is refused and not used again.
-/

namespace DelphiRtti

open Text

structure ClassName where
  bytes : List UInt8
deriving DecidableEq, Inhabited

namespace ClassName

def text (name : ClassName) : String := String.ofList (latinText name.bytes)

theorem text_injective {left right : ClassName}
    (same : left.text = right.text) : left = right := by
  cases left
  cases right
  exact congrArg ClassName.mk
    (latinText_injective (String.ofList_injective same))

/-- Whether a character of the capital form of the first character is
accepted. -/
def hasAcceptedPrefix (name : ClassName) (dialect : Dialect) : Bool :=
  match latinText name.bytes with
  | [] => false
  | first :: _ => (capitals first).any dialect.classPrefixes.contains

def check (name : ClassName) (dialect : Dialect) : Except RebuildError Unit :=
  if name.hasAcceptedPrefix dialect then .ok ()
  else .error (.badClassName name.text dialect.prefixList)

/-- A refused placement of the name: unreadable memory means
unreadable metadata. -/
def placementFailure : HostError → RebuildError
  | .memory cause => .metadataUnreadable cause
  | cause => .host cause

variable {σ : Type}

def read (address : Address) : Attempt σ RebuildError ClassName := do
  ExceptT.lift (Script.ask (.clearData address (address + (1 : UInt32))))
  Attempt.mapError placementFailure
    (Attempt.ofScript (Script.ask (.createData address .pascalString)))
  let length ← Attempt.mapError .metadataUnreadable
    (Attempt.ofScript (Script.ask (.readByte address)))
  let bytes ← Attempt.mapError .metadataUnreadable
    (Attempt.ofScript
      (Script.ask (.readBytes (address + (1 : UInt32)) length.toNat)))
  ExceptT.lift (Script.log .debug
    ("Class name bytes at " ++ address.render ++ ": "
      ++ String.ofList (hexOfBytes bytes)))
  return ⟨bytes⟩

end ClassName

namespace ClassNamespace

/-- A name that is taken means that the class is there already. -/
def failure (name : ClassName) : HostError → RebuildError
  | .duplicateName _ _ => .alreadyDefined name.text
  | cause => .host cause

variable {σ : Type}

def create (name : ClassName) : Attempt σ RebuildError NamespaceId := do
  let id ← Attempt.mapError (failure name)
    (Attempt.ofScript
      (Script.ask (.findOrCreateNamespace .global name.text .userDefined)))
  let converted ← Attempt.mapError (failure name)
    (Attempt.ofScript (Script.ask (.convertToClass id)))
  match converted with
  | some id => return id
  | none => throw (.noNamespace name.text)

end ClassNamespace

end DelphiRtti
