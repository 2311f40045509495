import DelphiRtti.Project

/-!
# What a script leaves behind

A script asks its host for things, writes lines and popups to the analyst's
console and leaves records in the log.  All of this is kept as one list of
events in the order in which it happened.
-/

namespace DelphiRtti

inductive Request where
  | readByte (address : Address)
  | readWord (address : Address)
  | readBytes (address : Address) (count : Nat)
  | clearData (start stop : Address)
  | createData (address : Address) (dataType : DataType)
  | findOrCreateNamespace (parent : NamespaceId) (name : String)
      (source : Source)
  | convertToClass (id : NamespaceId)
  | symbolAt (address : Address)
  | functionAt (address : Address)
  | createFunction (address : Address) (name : String)
  | setParent (function : FunctionId) (parent : NamespaceId)
  | functionName (function : FunctionId)
  | functionDefinition (function : FunctionId)
  | addType (dataType : DataType) (policy : ConflictPolicy)
deriving DecidableEq, Inhabited

@[reducible]
def Request.Response : Request → Type
  | .readByte _ => Except MemoryError UInt8
  | .readWord _ => Except MemoryError Int32
  | .readBytes _ _ => Except MemoryError (List UInt8)
  | .clearData _ _ => Unit
  | .createData _ _ => Except HostError Unit
  | .findOrCreateNamespace _ _ _ => Except HostError NamespaceId
  | .convertToClass _ => Except HostError (Option NamespaceId)
  | .symbolAt _ => Option Symbol
  | .functionAt _ => Option FunctionId
  | .createFunction _ _ => Except HostError (Option FunctionId)
  | .setParent _ _ => Except HostError Unit
  | .functionName _ => Except HostError String
  | .functionDefinition _ => Except HostError DataType
  | .addType _ _ => Except HostError DataType

inductive Level where
  | info
  | warn
  | debug
deriving DecidableEq, Inhabited

def Level.render : Level → String
  | .info => "INFO"
  | .warn => "WARN"
  | .debug => "DEBUG"

structure LogRecord where
  level : Level
  text : String
deriving DecidableEq, Inhabited

def LogRecord.render (record : LogRecord) : String :=
  record.level.render ++ " " ++ record.text

inductive Event where
  | asked (request : Request)
  | line (text : String)
  | popup (message : String)
  | logged (record : LogRecord)
deriving DecidableEq, Inhabited

abbrev Transcript := List Event

namespace Transcript

def requests (transcript : Transcript) : List Request :=
  transcript.filterMap fun
    | .asked request => some request
    | _ => none

def lines (transcript : Transcript) : List String :=
  transcript.filterMap fun
    | .line text => some text
    | _ => none

def popups (transcript : Transcript) : List String :=
  transcript.filterMap fun
    | .popup message => some message
    | _ => none

def records (transcript : Transcript) : List LogRecord :=
  transcript.filterMap fun
    | .logged record => some record
    | _ => none

end Transcript

end DelphiRtti
