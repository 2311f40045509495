import DelphiRtti.HostError

/-!
# Why a class is not rebuilt

The causes that end a rebuild.  Only those in which the cursor was no place for
a class count as failures of the run; a class that is there already, or a host
that refuses, is an ordinary end.
-/

namespace DelphiRtti

inductive RebuildError where
  | metadataUnreadable (cause : MemoryError)
  | badClassName (name expected : String)
  | alreadyDefined (name : String)
  /-- The host could make no class out of the namespace. -/
  | noNamespace (name : String)
  | host (cause : HostError)
deriving DecidableEq, Inhabited

namespace RebuildError

def message : RebuildError → String
  | .metadataUnreadable cause => "Class metadata unreadable: " ++ cause.message
  | .badClassName name expected =>
      "Expected class to be prefixed with " ++ expected
        ++ ", class name given was " ++ name ++ "."
  | .alreadyDefined name => "Class " ++ name ++ " already exists, stopping"
  | .noNamespace name => "No class namespace could be created for " ++ name
  | .host cause => "Host error: " ++ cause.message

def isFailure : RebuildError → Bool
  | .metadataUnreadable _ => true
  | .badClassName _ _ => true
  | _ => false

end RebuildError

end DelphiRtti
