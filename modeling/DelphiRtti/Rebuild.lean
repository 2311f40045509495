import DelphiRtti.ClassName
import DelphiRtti.ClassRecord
import DelphiRtti.MethodTable

/-!
# Rebuilding a class

From the address of a metadata record to a class in the project: the record
is read, the name decoded and checked, a namespace created, the table
walked, and the two structures of the class are stored.  Every outcome is
reported on the console.
-/

namespace DelphiRtti

open Text

structure RebuiltClass where
  name : ClassName
  parent : NamespaceId
  record : ClassRecord
  slots : List Slot
  stop : WalkEnd
  tableType : DataType
  instanceType : DataType
deriving Inhabited

namespace Rebuild

variable {σ : Type}

def unreadableMessage : String :=
  "Could not read the class name from the metadata record. "
    ++ "Either the cursor is not on a class metadata record or this compiler's "
    ++ "class metadata layout is not recognised. "
    ++ "Place the cursor on the start of the record and run again."

def summary (name : ClassName) (walk : Walk) : String :=
  "Class " ++ name.text ++ ": " ++ String.ofList (decimal walk.slots.length)
    ++ " VT slots, walk ended with " ++ walk.stop.render

/-- The stages of a rebuild, up to the first that fails. -/
def stages (address : Address) (dialect : Dialect) :
    Attempt σ RebuildError RebuiltClass := do
  let record ← Attempt.mapError .metadataUnreadable
      (ClassRecord.read address dialect)
  let name ← ClassName.read record.nameAddress
  liftExcept (name.check dialect)
  ExceptT.lift
    (Script.emit (Console.say dialect.tag ("Creating class " ++ name.text)))
  let parent ← ClassNamespace.create name
  let walk ← ExceptT.lift
    (MethodTable.walk dialect.tag name.text parent record.tableBase
      dialect.maxSlots)
  let (tableType, instanceType) ← Attempt.mapError .host
    (MethodTable.storeTypes name.text walk.table)
  ExceptT.lift (Script.log .info (summary name walk))
  return ⟨name, parent, record, walk.slots, walk.stop, tableType, instanceType⟩
where
  liftExcept (check : Except RebuildError Unit) : Attempt σ RebuildError Unit :=
    Attempt.ofScript (pure check)

def report (address : Address) (dialect : Dialect) (failure : RebuildError) :
    Transcript :=
  match failure with
  | .metadataUnreadable cause =>
      .logged ⟨.warn, "Metadata at " ++ address.render ++ " unreadable: "
        ++ cause.message⟩
        :: Console.popup dialect.tag unreadableMessage
  | .noNamespace name =>
      [.logged ⟨.debug, "Host returned no class namespace for " ++ name⟩]
  | .badClassName _ _ => Console.say dialect.tag failure.message
  | .alreadyDefined _ => Console.say dialect.tag failure.message
  | .host _ => Console.warn dialect.tag failure.message

end Rebuild

/-- Rebuilds the class whose metadata record starts at an address. -/
def rebuild {σ : Type} (address : Address) (dialect : Dialect) :
    Script σ (Except RebuildError RebuiltClass) := do
  match ← Attempt.outcome (Rebuild.stages address dialect) with
  | .ok rebuilt => return .ok rebuilt
  | .error failure =>
      Script.emit (Rebuild.report address dialect failure)
      return .error failure

end DelphiRtti
