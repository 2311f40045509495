import DelphiRtti.Proofs.Project.Namespaces

/-!
# Classes by name

A class that is found by its name stays one: no change removes its record or
makes anything else of it, and none puts another namespace of its name before
it.  This needs no bound on the number of namespaces.
-/

namespace DelphiRtti

open Text

/-- What a namespace is looked up by. -/
def NamespaceRecord.key (record : NamespaceRecord) : NamespaceId × String :=
  (record.parent, record.name)

namespace Project

variable {project next : Project} {parent id : NamespaceId} {name : String}
  {record : NamespaceRecord}

def asClass (project : Project) (id : NamespaceId)
    (record : NamespaceRecord) : Project :=
  { project with
    namespaces :=
      project.namespaces.set id.position { record with kind := .ofClass } }

theorem findNamespace?_eq_keys (project : Project) (parent : NamespaceId)
    (name : String) :
    project.findNamespace? parent name
      = (((project.namespaces.map NamespaceRecord.key).drop 1).findIdx?
          fun key => key = (parent, name)).map
            fun position => .ofPosition (position + 1) := by
  rw [findNamespace?, ← List.map_drop, List.findIdx?_map]
  congr 2
  funext record
  simp [NamespaceRecord.key, Bool.decide_and]

theorem findNamespace?_congr
    (sameKeys : next.namespaces.map NamespaceRecord.key
      = project.namespaces.map NamespaceRecord.key)
    (parent : NamespaceId) (name : String) :
    next.findNamespace? parent name = project.findNamespace? parent name := by
  rw [findNamespace?_eq_keys, findNamespace?_eq_keys, sameKeys]

theorem map_key_asClass (known : project.namespace? id = some record) :
    (project.asClass id record).namespaces.map NamespaceRecord.key
      = project.namespaces.map NamespaceRecord.key := by
  obtain ⟨inside, here⟩ := List.getElem?_eq_some_iff.1 known
  rw [asClass, List.map_set]
  apply List.ext_getElem?
  intro position
  by_cases same : id.position = position
  · subst same
    simp [inside, here, NamespaceRecord.key]
  · rw [List.getElem?_set_ne same]

theorem findNamespace?_asClass (known : project.namespace? id = some record)
    (parent : NamespaceId) (name : String) :
    (project.asClass id record).findNamespace? parent name
    = project.findNamespace? parent name :=
  findNamespace?_congr (map_key_asClass known) parent name

theorem findNamespace?_appendNamespace
    (found : project.findNamespace? parent name = some id)
    (record : NamespaceRecord) :
    (project.appendNamespace record).2.findNamespace? parent name
    = some id := by
  rw [findNamespace?] at found ⊢
  cases all : project.namespaces with
  | nil => simp [all] at found
  | cons root rest =>
      simp only [all, List.drop_one, List.tail_cons] at found
      simp only [appendNamespace, all, List.cons_append, List.drop_one,
        List.tail_cons, List.findIdx?_append]
      obtain ⟨position, first, number⟩ := Option.map_eq_some_iff.1 found
      simp [first, number]

theorem findNamespace?_appendNamespace_self (notEmpty : project.namespaces ≠ [])
    (free : project.findNamespace? record.parent record.name = none) :
    (project.appendNamespace record).2.findNamespace? record.parent record.name
      = some (.ofPosition project.namespaces.length) := by
  rw [findNamespace?] at free ⊢
  cases all : project.namespaces with
  | nil => exact (notEmpty all).elim
  | cons root rest =>
      simp only [all, List.drop_one, List.tail_cons,
        Option.map_eq_none_iff] at free
      simp only [appendNamespace, all, List.cons_append, List.drop_one,
        List.tail_cons, List.findIdx?_append, free]
      simp

theorem findOrCreateNamespace_eq_ok {source : Source}
    (created :
      project.findOrCreateNamespace parent name source = .ok (id, next)) :
    (project.namespace? parent).isSome
      ∧ (project.findNamespace? parent name = some id ∧ next = project
        ∨ project.findNamespace? parent name = none
          ∧ id = .ofPosition project.namespaces.length
          ∧ next
            = (project.appendNamespace ⟨name, parent, .plain, source⟩).2) := by
  rw [findOrCreateNamespace] at created
  split at created
  case h_1 => cases created
  case h_2 known =>
      refine ⟨by simp [known], ?_⟩
      split at created
      case h_1 found =>
          cases created
          exact .inl ⟨found, rfl⟩
      case h_2 free =>
          split at created
          case isTrue => cases created
          case isFalse =>
              cases created
              exact .inr ⟨free, rfl, rfl⟩

/-- Whatever a namespace was created for is found under its name from
then on. -/
theorem findNamespace?_of_findOrCreateNamespace {source : Source}
    (created : project.findOrCreateNamespace parent name source
      = .ok (id, next)) : next.findNamespace? parent name = some id := by
  obtain ⟨known, ⟨found, rfl⟩ | ⟨free, rfl, rfl⟩⟩ :=
    findOrCreateNamespace_eq_ok created
  · exact found
  · have notEmpty : project.namespaces ≠ [] := by
      intro nothing
      simp [namespace?, nothing] at known
    exact findNamespace?_appendNamespace_self notEmpty free

theorem convertToClass_eq_ok {other : NamespaceId}
    (converted : project.convertToClass id = .ok (some other, next)) :
    ∃ record, project.namespace? id = some record ∧ record.kind = .plain
      ∧ other = id
      ∧ next = project.asClass id record := by
  rw [convertToClass] at converted
  split at converted
  case h_1 => cases converted
  case h_2 record known =>
      split at converted
      case h_1 plain =>
          cases converted
          exact ⟨record, known, plain, rfl, rfl⟩
      case h_2 => cases converted
      case h_3 => cases converted
      case h_4 => cases converted

theorem findOrCreateNamespace_frame {source : Source}
    (created : project.findOrCreateNamespace parent name source = .ok
      (id, next)) : next = { project with namespaces := next.namespaces } := by
  obtain ⟨_, ⟨_, rfl⟩ | ⟨_, _, rfl⟩⟩ := findOrCreateNamespace_eq_ok created
  · rfl
  · rfl

theorem findOrCreateNamespace_eq_error {source : Source}
    {cause : HostError} (known : (project.namespace? parent).isSome)
    (refused : project.findOrCreateNamespace parent name source
      = .error cause) : ∃ scope, cause = .duplicateName name scope := by
  obtain ⟨record, found⟩ := Option.isSome_iff_exists.1 known
  simp only [findOrCreateNamespace, found] at refused
  split at refused
  case h_1 => cases refused
  case h_2 =>
      split at refused
      case isTrue =>
          cases refused
          exact ⟨_, rfl⟩
      case isFalse => cases refused

theorem convertToClass_eq_error
    {cause : HostError} (known : (project.namespace? id).isSome)
    (refused : project.convertToClass id = .error cause) :
    ∃ name scope, cause = .duplicateName name scope := by
  obtain ⟨record, found⟩ := Option.isSome_iff_exists.1 known
  simp only [convertToClass, found] at refused
  cases kind : record.kind with
  | ofClass =>
      rw [kind] at refused
      cases refused
      exact ⟨_, _, rfl⟩
  | _ =>
      rw [kind] at refused
      cases refused

/-- What a name is found or created as is known, even if its number is that
of another namespace. -/
theorem namespace?_of_findOrCreateNamespace {source : Source}
    (created : project.findOrCreateNamespace parent name source
      = .ok (id, next)) : (next.namespace? id).isSome := by
  rw [namespace?, isSome_getElem?]
  obtain ⟨_, ⟨found, rfl⟩ | ⟨_, rfl, rfl⟩⟩ :=
    findOrCreateNamespace_eq_ok created
  · obtain ⟨position, first, rfl⟩ := Option.map_eq_some_iff.1 found
    obtain ⟨inside, _⟩ := List.findIdx?_eq_some_iff_getElem.1 first
    rw [List.length_drop] at inside
    exact Nat.lt_of_le_of_lt (NamespaceId.position_ofPosition_le _)
      (Nat.add_lt_of_lt_sub inside)
  · rw [appendNamespace, List.length_append]
    exact Nat.lt_succ_of_le (NamespaceId.position_ofPosition_le _)

@[simp]
theorem length_asClass
    (project : Project) (id : NamespaceId) (record : NamespaceRecord) :
    (project.asClass id record).namespaces.length = project.namespaces.length :=
  List.length_set ..

theorem namespace?_isSome_of_length_le (known : (project.namespace? id).isSome)
    (longer : project.namespaces.length ≤ next.namespaces.length) :
    (next.namespace? id).isSome := by
  rw [namespace?, isSome_getElem?] at known ⊢
  exact Nat.lt_of_lt_of_le known longer

/-- Whether looking a name up under the global namespace finds this class. -/
structure HasClass (project : Project) (name : String) (id : NamespaceId)
    (record : NamespaceRecord) : Prop where
  found : project.findNamespace? .global name = some id
  known : project.namespace? id = some record
  isClass : record.kind = .ofClass

namespace HasClass

theorem congr (has : project.HasClass name id record)
    (same : next.namespaces = project.namespaces) :
    next.HasClass name id record where
  found := by
    have sameKeys : next.namespaces.map NamespaceRecord.key
        = project.namespaces.map NamespaceRecord.key := by rw [same]
    exact (findNamespace?_congr sameKeys .global name).trans has.found
  known := by
    rw [namespace?, same]
    exact has.known
  isClass := has.isClass

theorem appendNamespace
    (has : project.HasClass name id record) (other : NamespaceRecord) :
    (project.appendNamespace other).2.HasClass name id record where
  found := findNamespace?_appendNamespace has.found other
  known := by
    have inside := (List.getElem?_eq_some_iff.1 has.known).1
    rw [namespace?, Project.appendNamespace, List.getElem?_append_left inside]
    exact has.known
  isClass := has.isClass

theorem asClass (has : project.HasClass name id record)
    {other : NamespaceId} {plainRecord : NamespaceRecord}
    (known : project.namespace? other = some plainRecord)
    (plain : plainRecord.kind = .plain) :
    (project.asClass other plainRecord).HasClass name id record where
  found := by
  -- Another namespace that becomes a class has another number, for this one
  -- is a class already.
    rw [findNamespace?_asClass known]
    exact has.found
  known := by
    have apart : other.position ≠ id.position := by
      intro same
      have sameRecord := has.known
      rw [namespace?, ← same] at sameRecord
      cases known.symm.trans sameRecord
      cases plain.symm.trans has.isClass
    rw [namespace?, Project.asClass, List.getElem?_set_ne apart]
    exact has.known
  isClass := has.isClass

theorem change (has : project.HasClass name id record)
    (change : Change project next) : next.HasClass name id record := by
  cases change with
  | appendNamespace other => exact has.appendNamespace other
  | convert known plain => exact has.asClass known plain
  | _ => exact has.congr rfl

end HasClass

theorem hasClass_asClass (found : project.findNamespace? .global name = some id)
    (known : project.namespace? id = some record) :
    (project.asClass id record).HasClass name id
      { record with kind := .ofClass } where
  found := by
    rw [findNamespace?_asClass known]
    exact found
  known := by
    have inside := (List.getElem?_eq_some_iff.1 known).1
    rw [namespace?, asClass, List.getElem?_set_self inside]
  isClass := rfl

theorem Change.length_le (change : Change project next) :
    project.namespaces.length ≤ next.namespaces.length := by
  cases change with
  | appendNamespace record =>
      rw [Project.appendNamespace, List.length_append]
      exact Nat.le_add_right ..
  | convert => exact Nat.le_of_eq (length_asClass ..).symm
  | _ => exact Nat.le_refl _

/-- How the namespaces change when a class of a name is made: it is
appended, or a plain namespace of that name becomes the class.  No
other namespace differs. -/
inductive ClassMade (name : String) (id : NamespaceId)
    (before after : List NamespaceRecord) : Prop where
  | appended (number : id.position = before.length)
      (longer : after = before ++ [⟨name, .global, .ofClass, .userDefined⟩]) :
      ClassMade name id before after
  | converted (source : Source)
      (known : before[id.position]? = some ⟨name, .global, .plain, source⟩)
      (changed :
        after = before.set id.position ⟨name, .global, .ofClass, source⟩) :
      ClassMade name id before after

theorem ClassMade.record_of_known {before after : List NamespaceRecord}
    (made : ClassMade name id before after)
    (known : after[id.position]? = some record) :
    record.name = name ∧ record.parent = .global := by
  cases made with
  | appended number longer =>
      rw [longer, number, List.getElem?_concat_length] at known
      cases known
      exact ⟨rfl, rfl⟩
  | converted source present changed =>
      have inside := (List.getElem?_eq_some_iff.1 present).1
      rw [changed, List.getElem?_set_self inside] at known
      cases known
      exact ⟨rfl, rfl⟩

/-- As long as every namespace has a number of its own, the namespace that was
found or created for a class is the one that becomes the class. -/
theorem classMade_asClass
    (created :
      project.findOrCreateNamespace .global name .userDefined = .ok (id, next))
    (known : next.namespace? id = some record) (plain : record.kind = .plain)
    (numbered : next.namespaces.length ≤ wordBound) :
    ClassMade name id project.namespaces
      (next.asClass id record).namespaces := by
  obtain ⟨_, ⟨found, rfl⟩ | ⟨free, rfl, rfl⟩⟩ :=
    findOrCreateNamespace_eq_ok created
  · rw [findNamespace?_eq] at found
    obtain ⟨⟨number, other⟩, named, rfl⟩ := Option.map_eq_some_iff.1 found
    have here := namespace?_of_namedNamespace? numbered named
    obtain ⟨there, _, sameParent, sameName⟩ := here
    cases known.symm.trans there
    obtain ⟨_, _, _, source⟩ := record
    cases sameParent
    cases sameName
    cases plain
    exact .converted source there rfl
  · have room : project.namespaces.length < wordBound := by
      rw [appendNamespace, List.length_append] at numbered
      exact numbered
    have number := NamespaceId.position_ofPosition room
    rw [namespace?, number, appendNamespace,
      List.getElem?_concat_length] at known
    cases known
    refine .appended number ?_
    rw [asClass, number, appendNamespace]
    simp

end Project

end DelphiRtti
