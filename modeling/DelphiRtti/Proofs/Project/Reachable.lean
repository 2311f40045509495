import DelphiRtti.Project.Host
import DelphiRtti.Proofs.Project.Frames
import DelphiRtti.Proofs.Rebuild.CallOrder

/-!
# Reachable projects

The projects that sessions of operations lead to, rebuilds among them.
Every operation comes down to changes of nine kinds, so a property that
holds of the empty project and is kept by each kind of change holds of
every reachable project.
-/

namespace DelphiRtti

namespace Project

/-- What can be done with a project.  The start of a function is never
rewritten. -/
inductive Operation where
  | map (region : Region)
  | addLabel (address : Address) (label : Label)
  | addFunction (entry : Address) (name : String) (signature : Signature)
      (source : Source)
  | editFunction (id : FunctionId) (change : FunctionRecord → FunctionRecord)
      (keepsEntry : ∀ record, (change record).entry = record.entry)
  | addLibrary (name : String)
  /-- Whatever a script can ask for. -/
  | answer (request : Request)
  | rebuild (address : Address) (dialect : Dialect)

/-- The project after an operation, which is the same one if the
operation is refused. -/
def perform : Operation → Project → Project
  | .map region, project =>
      match project.map region with
      | .ok next => next
      | .error _ => project
  | .addLabel address label, project => project.addLabel address label
  | .addFunction entry name signature source, project =>
      match project.addFunction entry name signature source with
      | .ok (_, next) => next
      | .error _ => project
  | .editFunction id change _, project => project.updateFunction id change
  | .addLibrary name, project => (project.addLibrary name).2
  | .answer request, project => (project.respond request).2
  | .rebuild address dialect, project =>
      (DelphiRtti.rebuild address dialect host project).state

/-- The projects that some sequence of operations makes of the empty one. -/
inductive Reachable : Project → Prop where
  | empty : Reachable .empty
  | perform {project : Project} (operation : Operation) :
      Reachable project → Reachable (perform operation project)

/-- The kinds of changes that operations come down to. -/
inductive Change (project : Project) : Project → Prop where
  | map {region : Region} {image : Image}
      (mapped : project.image.map region = .ok image) :
      Change project { project with image }
  | addLabel (address : Address) (label : Label) :
      Change project (project.addLabel address label)
  | addFunction (record : FunctionRecord)
      (free : project.functionAt? record.entry = none) :
      Change project (project.withFunction record)
  | setFunction {id : FunctionId} {record edited : FunctionRecord}
      (known : project.function? id = some record)
      (sameEntry : edited.entry = record.entry) :
      Change project (project.setFunction id edited)
  | appendNamespace (record : NamespaceRecord)
      (known : record.parent = .global
        ∨ (project.namespace? record.parent).isSome)
      (free : project.findNamespace? record.parent record.name = none)
      (kind : record.kind = .plain ∨ record.kind = .ofLibrary) :
      Change project (project.appendNamespace record).2
  | convert {id : NamespaceId} {record : NamespaceRecord}
      (found : project.namespace? id = some record)
      (plain : record.kind = .plain) :
      Change project
        { project with
          namespaces := project.namespaces.set id.position
            { record with kind := .ofClass } }
  | clearData (start stop : Address) :
      Change project (project.clearData start stop)
  | placeItem {item : DataItem} {bytes : List UInt8}
      (sized :
        project.placedLength item.address item.dataType = .ok item.length)
      (readable : project.image.read item.address item.length.toNat = .ok bytes)
      (free : project.listing.conflict? item.address
        (item.address + item.length) = none) :
      Change project (project.withItem item)
  | storeType (dataType : DataType) : Change project (project.withType dataType)

variable {project : Project}

theorem map_change {region : Region} {next : Project}
    (mapped : project.map region = .ok next) : Change project next := by
  rw [Project.map] at mapped
  split at mapped
  case h_1 image placed =>
      cases mapped
      exact .map placed
  case h_2 => cases mapped

theorem addFunction_change {entry : Address} {name : String}
    {signature : Signature} {source : Source} {id : FunctionId} {next : Project}
    (added : project.addFunction entry name signature source = .ok (id, next)) :
    Change project next := by
  rw [addFunction] at added
  split at added
  case isTrue => cases added
  case isFalse free =>
      cases added
      exact .addFunction ⟨entry, name, .global, signature, source⟩
        (by simpa [SortedMap.contains, functionAt?] using free)

theorem createFunction_change {entry : Address}
    {name : String} {found : Option FunctionId} {next : Project}
    (created : project.createFunction entry name = .ok (found, next)) :
    next = project ∨ Change project next := by
  rw [createFunction] at created
  split at created
  case isTrue =>
      cases created
      exact .inl rfl
  case isFalse =>
      split at created
      case h_1 id added result =>
          cases created
          exact .inr (addFunction_change result)
      case h_2 => cases created

theorem updateFunction_change
    (id : FunctionId) {change : FunctionRecord → FunctionRecord}
    (keepsEntry : ∀ record, (change record).entry = record.entry) :
    project.updateFunction id change = project
      ∨ Change project (project.updateFunction id change) := by
  cases known : project.function? id with
  | none => exact .inl (updateFunction_of_unknown known change)
  | some record =>
      rw [updateFunction_of_known known]
      exact .inr (.setFunction known (keepsEntry record))

theorem setParent_change {function : FunctionId} {parent : NamespaceId}
    {next : Project} (filed : project.setParent function parent = .ok next) :
    next = project ∨ Change project next := by
  rw [setParent] at filed
  split at filed
  case h_1 => cases filed
  case h_2 => cases filed
  case h_3 =>
      cases filed
      exact updateFunction_change function fun _ => rfl

theorem createData_change {address : Address} {dataType : DataType}
    {next : Project}
    (created : project.createData address dataType = .ok next) :
    Change project next := by
  obtain ⟨length, bytes, sized, readable, free, rfl⟩ := createData_eq_ok created
  exact .placeItem sized readable free

theorem addType_change (dataType : DataType) (policy : ConflictPolicy) :
    (project.addType dataType policy).2 = project
      ∨ Change project (project.addType dataType policy).2 := by
  rcases @addType_eq project dataType policy with same | stored
  · exact .inl same
  · rw [stored]
    exact .inr (.storeType dataType)

theorem addLibrary_change (name : String) :
    (project.addLibrary name).2 = project
      ∨ Change project (project.addLibrary name).2 := by
  rw [addLibrary]
  split
  case h_1 => exact .inl rfl
  case h_2 free => exact .inr (.appendNamespace _ (.inl rfl) free (.inr rfl))

theorem findOrCreateNamespace_change {parent : NamespaceId}
    {name : String} {source : Source} {id : NamespaceId} {next : Project}
    (created : project.findOrCreateNamespace parent name source
      = .ok (id, next)) : next = project ∨ Change project next := by
  rw [findOrCreateNamespace] at created
  split at created
  case h_1 => cases created
  case h_2 known =>
      split at created
      case h_1 =>
          cases created
          exact .inl rfl
      case h_2 free =>
          split at created
          case isTrue => cases created
          case isFalse =>
              cases created
              exact .inr
                (.appendNamespace _ (.inr (by simp [known])) free (.inl rfl))

theorem convertToClass_change
    {id : NamespaceId} {found : Option NamespaceId} {next : Project}
    (converted : project.convertToClass id = .ok (found, next)) :
    next = project ∨ Change project next := by
  rw [convertToClass] at converted
  split at converted
  case h_1 => cases converted
  case h_2 record known =>
      split at converted
      case h_1 plain =>
          cases converted
          exact .inr (.convert known plain)
      case h_2 => cases converted
      case h_3 =>
          cases converted
          exact .inl rfl
      case h_4 =>
          cases converted
          exact .inl rfl

theorem settle_change {ε α : Type} {result : Except ε (α × Project)}
    (changes : ∀ value next, result = .ok (value, next) → next = project
      ∨ Change project next) :
    (project.settle result).2 = project
      ∨ Change project (project.settle result).2 := by
  cases result with
  | ok pair => exact changes pair.1 pair.2 rfl
  | error => exact .inl rfl

theorem settleUnit_change {ε : Type} {result : Except ε Project}
    (changes : ∀ next, result = .ok next → next = project
      ∨ Change project next) :
    (project.settleUnit result).2 = project
      ∨ Change project (project.settleUnit result).2 := by
  cases result with
  | ok next => exact changes next rfl
  | error => exact .inl rfl

theorem respond_change (request : Request) (project : Project) :
    (project.respond request).2 = project
      ∨ Change project (project.respond request).2 := by
  cases request with
  | clearData start stop => exact .inr (.clearData start stop)
  | createData address dataType =>
      exact settleUnit_change fun _ created => .inr (createData_change created)
  | findOrCreateNamespace parent name source =>
      exact settle_change fun _ _ => findOrCreateNamespace_change
  | convertToClass id => exact settle_change fun _ _ => convertToClass_change
  | createFunction entry name =>
      exact settle_change fun _ _ => createFunction_change
  | setParent function parent =>
      exact settleUnit_change fun _ => setParent_change
  | addType dataType policy => exact addType_change dataType policy
  | _ => exact .inl rfl

variable {property : Project → Prop}

theorem keeps_of_change
    (kept : ∀ {before after : Project}, property before → Change before after →
      property after) {next : Project} (initially : property project)
    (changed : next = project ∨ Change project next) : property next := by
  cases changed with
  | inl same =>
      rw [same]
      exact initially
  | inr change => exact kept initially change

theorem rebuild_keeps
    (kept : ∀ {before after : Project}, property before →
      Change before after → property after)
    (address : Address) (dialect : Dialect) (initially : property project) :
    property (DelphiRtti.rebuild address dialect host project).state := by
  -- A rebuild keeps what single changes keep, for it touches the project by
  -- requests alone.
  obtain ⟨exchanges, last, made, _⟩ :=
    rebuild_follows address dialect host project
  refine made.answers.keeps (fun request state holds => ?_) initially
  exact keeps_of_change kept holds (respond_change request state)

theorem perform_keeps
    (kept : ∀ {before after : Project}, property before → Change before after →
      property after) (operation : Operation) (initially : property project) :
    property (perform operation project) := by
  cases operation with
  | map region =>
      rw [perform]
      split
      case h_1 mapped => exact kept initially (map_change mapped)
      case h_2 => exact initially
  | addLabel address label => exact kept initially (.addLabel address label)
  | addFunction entry name signature source =>
      rw [perform]
      split
      case h_1 added => exact kept initially (addFunction_change added)
      case h_2 => exact initially
  | editFunction id change keepsEntry =>
      exact keeps_of_change kept initially (updateFunction_change id keepsEntry)
  | addLibrary name =>
      exact keeps_of_change kept initially (addLibrary_change name)
  | answer request =>
      exact keeps_of_change kept initially (respond_change request project)
  | rebuild address dialect =>
      exact rebuild_keeps kept address dialect initially

/-- What holds at first and is kept by every change holds of every
reachable project. -/
theorem Reachable.keeps (initially : property .empty)
    (kept : ∀ {before after : Project}, property before → Change before after →
      property after) (reachable : Reachable project) : property project := by
  induction reachable with
  | empty => exact initially
  | perform operation _ induction =>
      exact perform_keeps kept operation induction

end Project

end DelphiRtti
