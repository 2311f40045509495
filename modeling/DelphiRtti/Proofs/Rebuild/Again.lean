import DelphiRtti.Proofs.Rebuild.Success

/-!
# Rebuilding a class again

A second rebuild of the same class places the name anew, which brings back the
listing of the first one, and is then refused because the class is there.  So
nothing in the project changes.
-/

namespace DelphiRtti

namespace Project

variable {project other : Project} {item : DataItem} {start : Address}
  {name : ClassName}

/-- Whether a string can be placed as an item once what lies at its
first byte is gone. -/
structure PlacesString (project : Project) (item : DataItem) : Prop where
  isString : item.dataType = .pascalString
  sized : project.placedLength item.address .pascalString = .ok item.length
  readable : ∃ bytes,
    project.image.read item.address item.length.toNat = .ok bytes
  free : (project.listing.clear item.address
    (item.address + (1 : UInt32))).conflict? item.address
    (item.address + item.length) = none

namespace PlacesString

theorem positive (places : project.PlacesString item) :
    0 < item.length.toNat := by
  have sized := places.sized
  rw [placedLength_pascalString] at sized
  split at sized
  case h_1 count _ =>
      rw [← Except.ok.inj sized, toNat_stringLength]
      exact Nat.add_pos_left Nat.one_pos _
  case h_2 => cases sized

theorem createData (places : project.PlacesString item) :
    (project.clearData item.address (item.address + (1 : UInt32))).createData
      item.address .pascalString
      = .ok { project with listing := project.listing.placeAnew item } := by
  obtain ⟨bytes, readable⟩ := places.readable
  have sized : (project.clearData item.address
      (item.address + (1 : UInt32))).placedLength item.address
      .pascalString = .ok item.length := places.sized
  have asItem : item = ⟨item.address, item.length, .pascalString⟩ := by
    rw [← places.isString]
  have created := createData_of_free sized readable places.free
  rw [← asItem] at created
  exact created

theorem afterName (places : project.PlacesString item) :
    project.afterName item.address
      = { project with listing := project.listing.placeAnew item } := by
  rw [Project.afterName, places.createData]

theorem again (places : project.PlacesString item)
    (image : other.image = project.image)
    (listing : other.listing = project.listing.placeAnew item) :
    other.PlacesString item where
  isString := places.isString
  sized := by
    have sized := places.sized
    rw [placedLength_pascalString] at sized ⊢
    rw [image]
    exact sized
  readable := by
    rw [image]
    exact places.readable
  free := by
    rw [listing]
    exact Listing.conflict?_clear_placeAnew places.positive places.free

end PlacesString

theorem nameAt_eq_ok_iff :
    project.nameAt start = .ok name
      ↔ (∃ item, item.address = start ∧ project.PlacesString item)
        ∧ project.image.nameBytes start = .ok name := by
  rw [nameAt_eq]
  constructor
  · intro named
    cases created : (project.clearData start (start + (1 : UInt32))).createData
      start .pascalString with
    | error cause => simp [created] at named
    | ok placed =>
        simp only [created] at named
        obtain ⟨length, bytes, sized, readable, free, _⟩ :=
          createData_eq_ok created
        exact ⟨⟨⟨start, length, .pascalString⟩, rfl, rfl, sized,
          ⟨bytes, readable⟩, free⟩, named⟩
  · rintro ⟨⟨item, rfl, places⟩, named⟩
    rw [places.createData]
    exact named

/-- Where a name was placed, placing it again gives the same name and leaves
everything as it was. -/
theorem nameAt_again (named : project.nameAt start = .ok name)
    (image : other.image = project.image)
    (listing : other.listing = (project.afterName start).listing) :
    other.nameAt start = .ok name ∧ other.afterName start = other := by
  obtain ⟨⟨item, rfl, places⟩, bytes⟩ := nameAt_eq_ok_iff.1 named
  have placed : other.listing = project.listing.placeAnew item := by
    rw [listing, places.afterName]
  have again := places.again image placed
  constructor
  · apply nameAt_eq_ok_iff.2
    rw [image]
    exact ⟨⟨item, rfl, again⟩, bytes⟩
  · rw [again.afterName, placed, Listing.placeAnew_placeAnew, ← placed]

end Project

variable {project : Project} {address : Address} {dialect : Dialect}
  {rebuilt : RebuiltClass}

theorem Rebuild.stages_of_hasClass {record : ClassRecord} {name : ClassName}
    {id : NamespaceId} {known : NamespaceRecord}
    (readable : project.image.recordAt address dialect = .ok record)
    (named : project.nameAt record.nameAddress = .ok name)
    (placed : project.afterName record.nameAddress = project)
    (accepted : name.Accepted dialect)
    (root : (project.namespace? .global).isSome)
    (has : project.HasClass name.text id known) :
    (stages address dialect).result Project.host project
      = (.error (.alreadyDefined name.text), project) := by
  have refused := ClassNamespace.create_of_hasClass root has
  rw [stages, Attempt.result_bind_of_ok (read_result_of_ok readable),
    Attempt.result_bind_of_ok (name_result_of_ok named), placed,
    Attempt.result_bind_of_ok (checked_result_of_accepted accepted _),
    Attempt.result_bind_of_ok (Attempt.result_lift ..), Script.emit_state,
    Attempt.result_bind_of_error refused]

/-- A class that was rebuilt is refused when it is rebuilt again, and the whole
project stays as the first rebuild left it. -/
theorem rebuild_again_refused (reachable : project.Reachable)
    (built :
      (rebuild address dialect Project.host project).value = .ok rebuilt) :
    let left := (rebuild address dialect Project.host project).state
    (rebuild address dialect Project.host left).value
      = .error (.alreadyDefined rebuilt.name.text)
      ∧ (rebuild address dialect Project.host left).state = left := by
  intro left
  obtain ⟨table, classed, filled, completes⟩ := Rebuild.value_eq_ok_iff.1 built
  have gains := completes.gainsClass
  have lists := completes.listsSlots reachable.indexed
  obtain ⟨record, has⟩ := gains.hasClass
  have image : left.image = project.image := by
    rw [lists.image, gains.frame, Project.afterName_frame]
  have listing : left.listing
      = (project.afterName rebuilt.record.nameAddress).listing := by
    rw [lists.listing, gains.frame]
  obtain ⟨named, placed⟩ := Project.nameAt_again completes.name image listing
  have readable : left.image.recordAt address dialect = .ok rebuilt.record := by
    rw [image]
    exact completes.record
  have root : (left.namespace? .global).isSome := by
    rw [Project.namespace?, lists.namespaces]
    exact gains.root
  have stays : left.HasClass rebuilt.name.text rebuilt.parent record :=
    has.congr lists.namespaces
  have refused :=
    Rebuild.stages_of_hasClass readable named placed
      completes.accepted root stays
  rw [rebuild_value, rebuild_state, refused]
  exact ⟨rfl, rfl⟩

theorem rebuild_again_tabled :
    let left := (rebuild (.ofNat 4096) .compact Project.host .tabled).state
    (rebuild (.ofNat 4096) .compact Project.host left).value
      = .error (.alreadyDefined "TA")
      ∧ (rebuild (.ofNat 4096) .compact Project.host left).state = left := by
  obtain ⟨rebuilt, built, named, _⟩ := rebuild_tabled
  have refused := rebuild_again_refused Project.tabled_reachable built
  rw [named] at refused
  exact refused

end DelphiRtti
