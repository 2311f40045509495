import DelphiRtti.Memory
import DelphiRtti.Symbol

/-!
# What a host refuses

The causes for which a project, or whatever stands in its place, turns
a request down.
-/

namespace DelphiRtti

inductive HostError where
  | memory (cause : MemoryError)
  | type (cause : TypeError)
  | duplicateName (name scope : String)
  | unknownNamespace (id : NamespaceId)
  | unknownFunction (id : FunctionId)
  | functionExists (entry : Address)
  /-- The type has no length that the memory could give. -/
  | unplaceable (typeName : String) (address : Address)
  | conflictingData (typeName : String) (address : Address)
  | refused (reason : String)
deriving DecidableEq, Inhabited

namespace HostError

def message : HostError → String
  | .memory cause => cause.message
  | .type cause => cause.message
  | .duplicateName name scope => name ++ " already exists in " ++ scope
  | .unknownNamespace id => "Unknown namespace " ++ id.render
  | .unknownFunction id => "Unknown function " ++ id.render
  | .functionExists entry =>
      "Invalid operation: function already defined at " ++ entry.render
  | .unplaceable typeName address =>
      "Invalid operation: cannot place dynamically sized " ++ typeName ++ " at "
        ++ address.render
  | .conflictingData typeName address =>
      "Invalid operation: conflicting data " ++ typeName ++ " at "
        ++ address.render
  | .refused reason => "Invalid operation: " ++ reason

end HostError

end DelphiRtti
