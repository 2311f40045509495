import DelphiRtti.Console
import DelphiRtti.DataType.Declaration
import DelphiRtti.Script
import DelphiRtti.Text.Quoted

/-!
# Virtual method tables

A table is walked slot by slot.  Every target becomes a function inside the
namespace of the class, and every slot a pointer in the structure of the table.
The walk ends at the limit, at a target where no function can be, or at a slot
that fails; what was found before stays.
-/

namespace DelphiRtti

open Text

structure Slot where
  index : Nat
  address : Address
  target : Address
  function : FunctionId
  fieldName : String
  created : Bool
deriving DecidableEq, Inhabited

structure SlotError where
  index : Nat
  address : Address
  cause : HostError
deriving DecidableEq, Inhabited

namespace SlotError

def title (failure : SlotError) : String :=
  "VT slot " ++ String.ofList (decimal failure.index) ++ " at "
    ++ failure.address.render

def message (failure : SlotError) : String :=
  failure.title ++ ": " ++ failure.cause.message

end SlotError

inductive WalkEnd where
  | limitReached
  /-- No function can be at the target, which is taken as the end of
  the table. -/
  | noFunction (slot target : Address)
  | failed (failure : SlotError)
deriving DecidableEq, Inhabited

namespace WalkEnd

def isClean : WalkEnd → Bool
  | .failed _ => false
  | _ => true

/-- The form in which the log shows the end of a walk. -/
def render : WalkEnd → String
  | .limitReached => "SlotCap"
  | .noFunction slot target =>
      "NoFunction \x7b slot: " ++ slot.renderInner ++ ", target: "
        ++ target.renderInner ++ " \x7d"
  | .failed failure =>
      "Failed \x7b slot: " ++ failure.address.renderInner ++ ", error: "
        ++ String.ofList (quoted failure.message.toList) ++ " \x7d"

end WalkEnd

structure Walk where
  slots : List Slot
  stop : WalkEnd
  table : Structure
deriving Inhabited

namespace MethodTable

def slotSize : UInt32 := 4

def slotAddress (base : Address) (index : Nat) : Address :=
  base + UInt32.ofNat index * slotSize

def stubName (target : Address) : String := "FUN_" ++ target.renderCapital

/-- The name for a new function: what its address is called, or a stub name. -/
def nameFor (target : Address) : Option Symbol → String
  | some symbol => symbol.displayName
  | none => stubName target

def definingMessage (target : Address) (name : String) : String :=
  "defining function at 0x" ++ target.renderCapital ++ ", name " ++ name

def addingMessage (className name : String) : String :=
  "adding function " ++ className ++ "::" ++ name

inductive SlotOutcome where
  | added (slot : Slot) (table : Structure)
  | noFunction (target : Address)

variable {σ : Type}

/-- The function at a target, and whether it had to be created;
nothing where none can be. -/
def resolve (tag : String) (target : Address) :
    Attempt σ HostError (Option (FunctionId × Bool)) := do
  match ← ExceptT.lift (Script.ask (.functionAt target)) with
  | some function => return some (function, false)
  | none =>
      let symbol ← ExceptT.lift (Script.ask (.symbolAt target))
      let name := nameFor target symbol
      ExceptT.lift (Script.emit (Console.say tag (definingMessage target name)))
      let created ← Attempt.ofScript (Script.ask (.createFunction target name))
      return created.map fun function => (function, true)

/-- Files a function under the class and gives its name and the
pointer type of its slot. -/
def adopt (tag className : String) (parent : NamespaceId)
    (function : FunctionId) : Attempt σ HostError (String × DataType) := do
  Attempt.ofScript (Script.ask (.setParent function parent))
  let name ← Attempt.ofScript (Script.ask (.functionName function))
  ExceptT.lift (Script.emit (Console.say tag (addingMessage className name)))
  let definition ← Attempt.ofScript (Script.ask (.functionDefinition function))
  let stored ← Attempt.ofScript (Script.ask (.addType definition .keep))
  return (name, stored.pointerTo)

def takeSlot (tag className : String) (parent : NamespaceId) (table : Structure)
    (index : Nat) (address : Address) :
    Attempt σ HostError SlotOutcome := do
  let word ← Attempt.mapError .memory
      (Attempt.ofScript (Script.ask (.readWord address)))
  let target := Address.ofWord word
  match ← resolve tag target with
  | none => return .noFunction target
  | some (function, created) =>
      let (name, field) ← adopt tag className parent function
      match table.add field name "" with
      | .ok table =>
          return .added ⟨index, address, target, function, name, created⟩ table
      | .error failure => throw (.type failure)

def report (tag : String) (failure : SlotError) : Transcript :=
  Console.warn tag ("Failed to add function: " ++ failure.title)
    ++ Console.warn tag ("\t" ++ failure.cause.message)

/-- Walks at most `remaining` slots from the slot with the given index on, where
`table` holds the slots before it. -/
def walkFrom (tag className : String) (parent : NamespaceId) (base : Address) :
    (remaining : Nat) → (index : Nat) → (table : Structure) → Script σ Walk
  | 0, _, table => return ⟨[], .limitReached, table⟩
  | remaining + 1, index, table => do
      let address := slotAddress base index
      match ← Attempt.outcome
        (takeSlot tag className parent table index address) with
      | .ok (.added slot table) =>
          let rest ← walkFrom tag className parent base remaining
              (index + 1) table
          return { rest with slots := slot :: rest.slots }
      | .ok (.noFunction target) =>
          Script.log .debug ("No function at " ++ target.render ++ " (slot "
            ++ String.ofList (decimal index) ++ "), VT ends")
          return ⟨[], .noFunction address target, table⟩
      | .error cause =>
          let failure : SlotError := ⟨index, address, cause⟩
          Script.emit (report tag failure)
          return ⟨[], .failed failure, table⟩

def walk (tag className : String) (parent : NamespaceId) (base : Address)
    (maxSlots : UInt32) : Script σ Walk :=
  walkFrom tag className parent base maxSlots.toNat 0
    (.named (className ++ "VT"))

/-- The structure of a class: a pointer to the structure of its table. -/
def instanceLayout (className : String) (table : DataType) :
    Except TypeError Structure :=
  (Structure.named className).add table.pointerTo "vt" "Virtual Function Table"

/-- Stores the structure of the table and that of the class in place of earlier
ones, and gives both. -/
def storeTypes (className : String) (table : Structure) :
    Attempt σ HostError (DataType × DataType) := do
  let table ← Attempt.ofScript (Script.ask (.addType (.struct table) .replace))
  match instanceLayout className table with
  | .error failure => throw (.type failure)
  | .ok layout =>
      let layout ← Attempt.ofScript
          (Script.ask (.addType (.struct layout) .replace))
      return (table, layout)

end MethodTable

end DelphiRtti
