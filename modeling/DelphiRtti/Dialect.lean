/-!
# Dialects of class metadata

Where a compiler puts the class name in its metadata, how many methods a class
may have and with which letters class names begin.
-/

namespace DelphiRtti

/-- The layout of class metadata and the limits of a rebuild. -/
structure Dialect where
  /-- The displacement of the name pointer inside the metadata record. -/
  nameOffset : UInt32
  /-- The most slots of a virtual method table that are looked at. -/
  maxSlots : UInt32
  /-- The characters one of which the capital form of a class name
  starts with. -/
  classPrefixes : List Char
  tag : String
deriving DecidableEq

namespace Dialect

/-- The layout of 32-bit images: names at displacement 32, at most a hundred
slots, `T` for ordinary types and `E` for exceptions. -/
def standard : Dialect := ⟨32, 100, ['T', 'E'], "Dhrake"⟩

instance : Inhabited Dialect := ⟨standard⟩

def joinLast (word : String) : List String → String
  | [] => ""
  | [last] => last
  | [item, last] => item ++ word ++ last
  | item :: rest => item ++ ", " ++ joinLast word rest

def prefixList (dialect : Dialect) : String :=
  joinLast " or " (dialect.classPrefixes.map fun character =>
    String.ofList [character])

end Dialect

end DelphiRtti
