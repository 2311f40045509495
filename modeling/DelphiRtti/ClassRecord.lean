import DelphiRtti.Dialect
import DelphiRtti.Script

/-!
# Class metadata records

A record holds, at its start, the base of the virtual method table and, at the
dialect's displacement, the address of the class name.
-/

namespace DelphiRtti

/-- The pointers of the metadata record at an address. -/
structure ClassRecord where
  address : Address
  tableBase : Address
  nameAddress : Address
deriving DecidableEq, Inhabited

namespace ClassRecord

variable {σ : Type}

def read (address : Address) (dialect : Dialect) :
    Attempt σ MemoryError ClassRecord := do
  let tableBase ← Attempt.ofScript (Script.ask (.readWord address))
  let nameAddress ← Attempt.ofScript
      (Script.ask (.readWord (address + dialect.nameOffset)))
  let record : ClassRecord := ⟨address, .ofWord tableBase, .ofWord nameAddress⟩
  ExceptT.lift (Script.log .debug
    ("Metadata at " ++ address.render ++ ": vt="
      ++ record.tableBase.render ++ " name="
      ++ record.nameAddress.render))
  return record

end ClassRecord

end DelphiRtti
