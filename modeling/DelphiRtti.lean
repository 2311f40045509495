import DelphiRtti.Host.Faults
import DelphiRtti.Main
import DelphiRtti.Proofs.MethodTable.Reference
import DelphiRtti.Proofs.Rebuild.Containment
import DelphiRtti.Proofs.Rebuild.Outcome
import DelphiRtti.Proofs.MethodTable.Fields
import DelphiRtti.Proofs.MethodTable.Footprint
import DelphiRtti.Proofs.Project.Classes
import DelphiRtti.Proofs.Rebuild.Success
import DelphiRtti.Proofs.Rebuild.Again
import DelphiRtti.Proofs.Rebuild.Footprint
import DelphiRtti.Proofs.Rebuild.Session
import DelphiRtti.Proofs.Rebuild.FieldTypes
import DelphiRtti.Proofs.Rebuild.OtherClasses
import DelphiRtti.Proofs.Rebuild.Unreadable
import DelphiRtti.Proofs.Project.Forest
import DelphiRtti.Proofs.Project.QualifiedName
import DelphiRtti.Proofs.Project.Overlap
import DelphiRtti.Proofs.Rebuild.NamePlacement
import DelphiRtti.Proofs.MethodTable.Messages
import DelphiRtti.Proofs.Rebuild.Report
import DelphiRtti.Proofs.Project.FunctionTable
import DelphiRtti.Proofs.Binary.Sections
import DelphiRtti.Proofs.MethodTable.Pieces
import DelphiRtti.Proofs.Binary.Imports
import DelphiRtti.Proofs.Binary.Loading
import DelphiRtti.Proofs.Shell.Session
import DelphiRtti.Proofs.Memory.Reading
import DelphiRtti.Proofs.Project.Clearing
import DelphiRtti.Proofs.Project.Placement
import DelphiRtti.Proofs.Project.Pieces
import DelphiRtti.Proofs.Binary.Contents
import DelphiRtti.Proofs.Binary.ImportSlots
import DelphiRtti.Proofs.Address.Reading
import DelphiRtti.Proofs.Address.Rendering
import DelphiRtti.Proofs.Shell.Hexdump
import DelphiRtti.Proofs.Text.Wrapped
import DelphiRtti.Proofs.DataType.Layout
import DelphiRtti.Proofs.Project.TypeHistory
import DelphiRtti.Proofs.Shell.Command
