import DelphiRtti.Executable.Header

/-!
# Certificates of executables

Signatures lie in a table of the file, which the directory of certificates
names by its offset in the file. The certificates follow each other at
multiples of eight bytes.
-/

namespace DelphiRtti.Executable

structure Certificate where
  /-- The length of the head and what it signs with, in bytes. -/
  length : Nat
  revision : Nat
  kind : Nat
deriving DecidableEq, Inhabited

namespace Certificate

def headLength : Nat := 8

def contentLength (certificate : Certificate) : Nat :=
  certificate.length - headLength

/-- Revisions are 1.0 and 2.0, and there are four kinds. -/
def isKnown (certificate : Certificate) : Bool :=
  (certificate.revision == 0x100 || certificate.revision == 0x200)
    && 1 ≤ certificate.kind && certificate.kind ≤ 4

/-- Reads the certificate at an offset.  Its contents have to be in the file. -/
def parse? (file : File) (offset : Nat) : Option Certificate := do
  let length ← file.field? offset 4
  let revision ← file.field? (offset + 4) 2
  let kind ← file.field? (offset + 6) 2
  let certificate : Certificate := ⟨length, revision, kind⟩
  if certificate.isKnown
    && offset + headLength + certificate.contentLength ≤ file.size then
    return certificate
  else failure

def aligned (offset : Nat) : Nat := (offset + 7) / 8 * 8

def next (certificate : Certificate) (offset : Nat) : Nat :=
  aligned (offset + headLength + certificate.contentLength)

theorem lt_next (certificate : Certificate) (offset : Nat) :
    offset < certificate.next offset := by
  simp only [next, aligned, headLength]
  omega

def parseAll? (file : File) (offset tableEnd : Nat) :
    Option (List Certificate) :=
  if offset < tableEnd then
    match parse? file offset with
    | some certificate =>
        (parseAll? file (certificate.next offset) tableEnd).map
          (certificate :: ·)
    | none => none
  else some []
termination_by tableEnd - offset
decreasing_by
  have := lt_next certificate offset
  omega

/-- The certificates of a file, of which the table may not reach
beyond the end. -/
def table? (file : File) (header : Header) : Option (List Certificate) :=
  match header.directory? 4 with
  | none => some []
  | some directory =>
      let tableEnd := directory.address + directory.size
      if file.size < tableEnd then none else
        parseAll? file directory.address tableEnd

end Certificate

end DelphiRtti.Executable
