import DelphiRtti.Script

/-!
# Hosts that fail on command

A host can be made to refuse chosen requests: the nth one of a kind is answered
by a prepared failure and does not reach the host itself.
-/

namespace DelphiRtti

inductive RequestKind where
  | readByte
  | readWord
  | readBytes
  | clearData
  | createData
  | findOrCreateNamespace
  | convertToClass
  | symbolAt
  | functionAt
  | createFunction
  | setParent
  | functionName
  | functionDefinition
  | addType
deriving DecidableEq, Inhabited

def Request.kind : Request → RequestKind
  | .readByte _ => .readByte
  | .readWord _ => .readWord
  | .readBytes _ _ => .readBytes
  | .clearData _ _ => .clearData
  | .createData _ _ => .createData
  | .findOrCreateNamespace _ _ _ => .findOrCreateNamespace
  | .convertToClass _ => .convertToClass
  | .symbolAt _ => .symbolAt
  | .functionAt _ => .functionAt
  | .createFunction _ _ => .createFunction
  | .setParent _ _ => .setParent
  | .functionName _ => .functionName
  | .functionDefinition _ => .functionDefinition
  | .addType _ _ => .addType

inductive PreparedFailure where
  | error (cause : HostError)
  | nothing
deriving DecidableEq, Inhabited

namespace PreparedFailure

/-- A failure of memory; other causes do not fit where only memory is read. -/
def memoryError? : PreparedFailure → Option MemoryError
  | .error (.memory cause) => some cause
  | _ => none

def hostError? : PreparedFailure → Option HostError
  | .error cause => some cause
  | .nothing => none

def optional {α : Type} : PreparedFailure → Except HostError (Option α)
  | .error cause => .error cause
  | .nothing => .ok none

def response? (failure : PreparedFailure) :
    (request : Request) → Option request.Response
  | .readByte _ => failure.memoryError?.map .error
  | .readWord _ => failure.memoryError?.map .error
  | .readBytes _ _ => failure.memoryError?.map .error
  | .clearData _ _ => none
  | .createData _ _ => failure.hostError?.map .error
  | .findOrCreateNamespace _ _ _ => failure.hostError?.map .error
  | .convertToClass _ => some failure.optional
  | .symbolAt _ => some none
  | .functionAt _ => some none
  | .createFunction _ _ => some failure.optional
  | .setParent _ _ => failure.hostError?.map .error
  | .functionName _ => failure.hostError?.map .error
  | .functionDefinition _ => failure.hostError?.map .error
  | .addType _ _ => failure.hostError?.map .error

end PreparedFailure

/-- Which request fails, counting those of its kind from one, and how. -/
structure Fault where
  kind : RequestKind
  nth : Nat
  failure : PreparedFailure
deriving DecidableEq, Inhabited

namespace Host

variable {σ : Type}

def preparedResponse? (faults : List Fault) (history : List RequestKind)
    (request : Request) : Option request.Response :=
  (faults.find? fun fault =>
      fault.kind = request.kind
        && fault.nth = history.count request.kind + 1).bind
    fun fault => fault.failure.response? request

/-- The host with faults.  Its state also holds the kinds of the
requests so far. -/
def withFaults (host : Host σ) (faults : List Fault) :
    Host (σ × List RequestKind) where
  respond request state :=
    match preparedResponse? faults state.2 request with
    | some response => (response, (state.1, request.kind :: state.2))
    | none =>
        let answer := host.respond request state.1
        (answer.1, (answer.2, request.kind :: state.2))
  records request state :=
    match preparedResponse? faults state.2 request with
    | some _ => []
    | none => host.records request state.1

end Host

end DelphiRtti
