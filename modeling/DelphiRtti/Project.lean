import DelphiRtti.HostError
import DelphiRtti.Listing

/-!
# Projects

A project holds the memory of one image and what is known about it: placed data,
namespaces, functions, labels and data types.  Operations that can be refused
give the project that they lead to only on success.
-/

namespace DelphiRtti

/-- What becomes of a stored type when another one of its name is added. -/
inductive ConflictPolicy where
  /-- The new type takes the place of the stored one. -/
  | replace
  | keep
deriving DecidableEq, Inhabited

structure Project where
  image : Image
  listing : Listing
  /-- The namespaces by position; the global one is first. -/
  namespaces : List NamespaceRecord
  functions : List FunctionRecord
  entries : SortedMap Address FunctionId
  labels : SortedMap Address (List Label)
  types : SortedMap String DataType
deriving DecidableEq

namespace Project

/-- A project in which nothing is known but the memory. -/
def ofImage (image : Image) : Project where
  image
  listing := ∅
  namespaces := [.global]
  functions := []
  entries := ∅
  labels := ∅
  types := ∅

def empty : Project := ofImage .empty

instance : Inhabited Project := ⟨empty⟩

def map (project : Project) (region : Region) : Except MemoryError Project :=
  match project.image.map region with
  | .ok image => .ok { project with image }
  | .error failure => .error failure

def namespace? (project : Project) (id : NamespaceId) :
    Option NamespaceRecord :=
  project.namespaces[id.position]?

def namespacesWithIds (project : Project) :
    List (NamespaceId × NamespaceRecord) :=
  project.namespaces.zipIdx.map fun entry => (.ofPosition entry.2, entry.1)

def findNamespace? (project : Project) (parent : NamespaceId) (name : String) :
    Option NamespaceId :=
  ((project.namespaces.drop 1).findIdx? fun record =>
      record.parent = parent && record.name = name).map
    fun position => .ofPosition (position + 1)

/-- The names on the way from a namespace up to the global one, the
namespace's own name first.  The way ends at an unknown namespace, and
`steps` bounds its length. -/
def namesUpward (project : Project) : (steps : Nat) → NamespaceId → List String
  | 0, _ => []
  | steps + 1, id =>
      if id = .global then []
      else
        match project.namespace? id with
        | some record => record.name :: project.namesUpward steps record.parent
        | none => []

/-- The names on the way down to a namespace, joined by two colons.  A
namespace is filed under an earlier one, so no way is longer than the
list of namespaces. -/
def qualifiedName (project : Project) (id : NamespaceId) : String :=
  match project.namesUpward project.namespaces.length id with
  | [] => "Global"
  | names => "::".intercalate names.reverse

/-- The name of the scope a symbol is shown in, unless that is the
global namespace. -/
def scopeName? (project : Project) (id : NamespaceId) : Option String :=
  if id = .global then none else some (project.qualifiedName id)

def appendNamespace (project : Project) (record : NamespaceRecord) :
    NamespaceId × Project :=
  (.ofPosition project.namespaces.length,
    { project with namespaces := project.namespaces ++ [record] })

def addLibrary (project : Project) (name : String) : NamespaceId × Project :=
  match project.findNamespace? .global name with
  | some id => (id, project)
  | none => project.appendNamespace ⟨name, .global, .ofLibrary, .imported⟩

/-- Whether a function or a label of this name is filed directly under
a namespace. -/
def hasPlainSymbol (project : Project) (parent : NamespaceId)
    (name : String) : Bool :=
  (project.functions.any fun record =>
      record.parent = parent && record.name = name)
    || (project.labels.values.flatten.any fun label =>
      label.parent = parent && label.name = name)

/-- The namespace with this parent and name, which is created if there is none
and no other symbol has taken the name. -/
def findOrCreateNamespace (project : Project)
    (parent : NamespaceId) (name : String) (source : Source) :
    Except HostError (NamespaceId × Project) :=
  match project.namespace? parent with
  | none => .error (.unknownNamespace parent)
  | some _ =>
      match project.findNamespace? parent name with
      | some id => .ok (id, project)
      | none =>
          if project.hasPlainSymbol parent name then
            .error (.duplicateName name (project.qualifiedName parent))
          else
            .ok (project.appendNamespace ⟨name, parent, .plain, source⟩)

/-- Turns a plain namespace into a class.  A class is a duplicate, and nothing
comes of the global namespace or of a library. -/
def convertToClass (project : Project) (id : NamespaceId) :
    Except HostError (Option NamespaceId × Project) :=
  match project.namespace? id with
  | none => .error (.unknownNamespace id)
  | some record =>
      match record.kind with
      | .plain =>
          .ok (some id,
            { project with
              namespaces := project.namespaces.set id.position
                { record with kind := .ofClass } })
      | .ofClass =>
          .error (.duplicateName record.name
            (project.qualifiedName record.parent))
      | .global => .ok (none, project)
      | .ofLibrary => .ok (none, project)

def function? (project : Project) (id : FunctionId) : Option FunctionRecord :=
  project.functions[id.position]?

def functionsWithIds (project : Project) : List (FunctionId × FunctionRecord) :=
  project.functions.zipIdx.map fun entry => (.ofPosition entry.2, entry.1)

def functionsIn (project : Project) (id : NamespaceId) :
    List (FunctionId × FunctionRecord) :=
  project.functionsWithIds.filter fun entry => entry.2.parent = id

def functionAt? (project : Project) (address : Address) : Option FunctionId :=
  project.entries.get? address

/-- Defines a function that was found or imported, under the global
namespace. -/
def addFunction (project : Project) (entry : Address) (name : String)
    (signature : Signature) (source : Source) :
    Except HostError (FunctionId × Project) :=
  if project.entries.contains entry then
    .error (.functionExists entry)
  else
    let id := FunctionId.ofPosition project.functions.length
    .ok (id,
      { project with
        functions :=
          project.functions ++ [⟨entry, name, .global, signature, source⟩]
        entries := project.entries.insert entry id })

/-- Defines a function where executable memory is and no function starts yet. -/
def createFunction (project : Project) (entry : Address) (name : String) :
    Except HostError (Option FunctionId × Project) :=
  if project.entries.contains entry || !project.image.isExecutable entry then
    .ok (none, project)
  else
    match project.addFunction entry name .undefined .userDefined with
    | .ok (id, project) => .ok (some id, project)
    | .error failure => .error failure

def updateFunction (project : Project) (id : FunctionId)
    (change : FunctionRecord → FunctionRecord) : Project :=
  match project.function? id with
  | some record =>
      { project with
        functions := project.functions.set id.position (change record) }
  | none => project

def editFunction (project : Project) (id : FunctionId) (name : Option String)
    (parent : Option NamespaceId) (signature : Option Signature) : Project :=
  project.updateFunction id fun record =>
    { record with
      name := name.getD record.name
      parent := parent.getD record.parent
      signature := signature.getD record.signature }

def setParent (project : Project) (function : FunctionId)
    (parent : NamespaceId) : Except HostError Project :=
  match project.namespace? parent, project.function? function with
  | none, _ => .error (.unknownNamespace parent)
  | some _, none => .error (.unknownFunction function)
  | some _, some _ =>
      .ok (project.updateFunction function fun record => { record with parent })

def functionName (project : Project) (id : FunctionId) :
    Except HostError String :=
  match project.function? id with
  | some record => .ok record.name
  | none => .error (.unknownFunction id)

def functionDefinition (project : Project) (id : FunctionId) :
    Except HostError DataType :=
  match project.function? id with
  | some record => .ok (.function record.definition)
  | none => .error (.unknownFunction id)

/-- Adds a label or an import after those that are at the address. -/
def addLabel (project : Project) (address : Address)
    (label : Label) : Project :=
  { project with
    labels := project.labels.insert address
      ((project.labels.get? address).getD [] ++ [label]) }

def labelsIn (project : Project) (id : NamespaceId) : List (Address × String) :=
  (project.labels.toList.flatMap fun entry =>
      entry.2.map fun label => (entry.1, label)).filterMap
    fun entry =>
      if entry.2.parent = id then some (entry.1, entry.2.name) else none

/-- What an address is called: the function that starts there, or else
its first label. -/
def symbolAt? (project : Project) (address : Address) : Option Symbol :=
  match (project.functionAt? address).bind project.function? with
  | some record =>
      some ⟨record.name, address, .function, record.source,
        project.scopeName? record.parent⟩
  | none =>
      ((project.labels.get? address).bind List.head?).map fun label =>
        ⟨label.name, address, label.kind, label.source,
          project.scopeName? label.parent⟩

def dataAt? (project : Project) (address : Address) : Option DataItem :=
  project.listing.get? address

def clearData (project : Project) (start stop : Address) : Project :=
  { project with listing := project.listing.clear start stop }

/-- The length that a type has at an address: a string's is read from memory. -/
def placedLength (project : Project) (address : Address) (dataType : DataType) :
    Except HostError UInt32 :=
  match dataType.length? with
  | some length => .ok length
  | none =>
      if dataType = .pascalString then
        match project.image.readByte address with
        | .ok count => .ok (1 + count.toUInt32)
        | .error failure => .error (.memory failure)
      else
        .error (.unplaceable dataType.name address)

def createData (project : Project) (address : Address) (dataType : DataType) :
    Except HostError Project :=
  match project.placedLength address dataType with
  | .error failure => .error failure
  | .ok length =>
      match project.image.read address length.toNat with
      | .error failure => .error (.memory failure)
      | .ok _ =>
          match project.listing.conflict? address (address + length) with
          | some other =>
              .error (.conflictingData other.dataType.name other.address)
          | none =>
              .ok { project with
                listing :=
                  project.listing.insert address ⟨address, length, dataType⟩ }

def type? (project : Project) (name : String) : Option DataType :=
  project.types.get? name

/-- Adds a type under its name and gives the type that is then stored there. -/
def addType (project : Project) (dataType : DataType)
    (policy : ConflictPolicy) : DataType × Project :=
  match policy with
  | .replace =>
      (dataType,
        { project with types := project.types.insert dataType.name dataType })
  | .keep =>
      match project.types.get? dataType.name with
      | some stored => (stored, project)
      | none =>
          (dataType,
            { project with
              types := project.types.insert dataType.name dataType })

end Project

end DelphiRtti
