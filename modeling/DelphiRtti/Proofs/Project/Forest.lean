import Mathlib.Data.List.Nodup
import DelphiRtti.Proofs.Project.Classes

/-!
# The forest of namespaces

Every namespace but the global one is filed under an earlier one, and no two of
them share parent and name.  Namespaces are only ever appended, and the one
thing that changes in a record is that a plain namespace becomes a class.  So
looking a name up finds the only namespace that bears it.
-/

namespace DelphiRtti

open Text

theorem NamespaceId.position_injective {left right : NamespaceId}
    (same : left.position = right.position) : left = right := by
  cases left
  cases right
  exact congrArg NamespaceId.mk (UInt32.toNat_inj.1 same)

theorem NamespaceId.ofPosition_position (id : NamespaceId) :
    ofPosition id.position = id :=
  congrArg NamespaceId.mk UInt32.ofNat_toNat

theorem NamespaceId.position_ne_zero_iff {id : NamespaceId} :
    id.position ≠ 0 ↔ id ≠ .global := by
  apply not_congr
  constructor
  · intro first
    exact position_injective first
  · rintro rfl
    rfl

namespace NamespaceRecord

/-- Whether a record is what has become of another one: a plain namespace may
have become a class, and nothing else differs. -/
structure Continues (before after : NamespaceRecord) : Prop where
  name : after.name = before.name
  parent : after.parent = before.parent
  source : after.source = before.source
  kind : after.kind = before.kind ∨ before.kind = .plain ∧ after.kind = .ofClass

namespace Continues

theorem refl (record : NamespaceRecord) : record.Continues record :=
  ⟨rfl, rfl, rfl, .inl rfl⟩

theorem trans {first second third : NamespaceRecord}
    (earlier : first.Continues second) (later : second.Continues third) :
    first.Continues third where
  name := later.name.trans earlier.name
  parent := later.parent.trans earlier.parent
  source := later.source.trans earlier.source
  kind := by
    rcases earlier.kind with same | ⟨plain, isClass⟩
    · rw [← same]
      exact later.kind
    · rcases later.kind with sameLater | ⟨plainLater, _⟩
      · exact .inr ⟨plain, sameLater.trans isClass⟩
      · cases isClass.symm.trans plainLater

end Continues

end NamespaceRecord

namespace Project

variable {project next : Project} {record : NamespaceRecord} {id : NamespaceId}

/-- What the namespaces after the global one are looked up by. -/
def keys (project : Project) : List (NamespaceId × String) :=
  (project.namespaces.map NamespaceRecord.key).drop 1

/-- Whether the namespaces form a tree below the global one, in which no two
namespaces filed under the same one have the same name. -/
structure Forest (project : Project) : Prop where
  rooted : project.Rooted
  earlier : ∀ {position : Nat} {record : NamespaceRecord},
    project.namespaces[position]? = some record → position ≠ 0 →
      record.parent.position < position
  distinct : project.keys.Nodup

theorem keys_appendNamespace (notEmpty : project.namespaces ≠ [])
    (record : NamespaceRecord) :
    (project.appendNamespace record).2.keys = project.keys ++ [record.key] := by
  have mappedNotEmpty : project.namespaces.map NamespaceRecord.key ≠ [] :=
    fun nothing => notEmpty (List.map_eq_nil_iff.1 nothing)
  rw [keys, keys, appendNamespace, List.map_append,
    List.drop_append_of_le_length]
  · rfl
  · exact List.length_pos_iff.2 mappedNotEmpty

theorem key_notMem_keys
    (free : project.findNamespace? record.parent record.name = none) :
    record.key ∉ project.keys := by
  rw [findNamespace?_eq_keys, Option.map_eq_none_iff,
    List.findIdx?_eq_none_iff] at free
  intro member
  have different := free record.key member
  simp [NamespaceRecord.key] at different

namespace Forest

theorem empty : Forest .empty where
  rooted := .empty
  earlier := by
    intro position record found notFirst
    have inside := (List.getElem?_eq_some_iff.1 found).1
    exact (notFirst (Nat.lt_one_iff.1 inside)).elim
  distinct := List.nodup_nil

theorem congr (forest : project.Forest)
    (same : next.namespaces = project.namespaces) : next.Forest where
  rooted := forest.rooted.congr same
  earlier := same ▸ forest.earlier
  distinct := by
    rw [keys, same]
    exact forest.distinct

theorem appendNamespace (forest : project.Forest) (kind : record.kind ≠ .global)
    (known :
      record.parent = .global ∨ (project.namespace? record.parent).isSome)
    (free : project.findNamespace? record.parent record.name = none) :
    (project.appendNamespace record).2.Forest where
  rooted := forest.rooted.appendNamespace kind
  earlier := by
  -- The parent of a new namespace is there already, so it is an earlier
  -- one.
    intro position other found notFirst
    have parentBelow : record.parent.position < project.namespaces.length := by
      rcases known with global | there
      · rw [global]
        exact (List.getElem?_eq_some_iff.1 forest.rooted.root).1
      · rw [namespace?, isSome_getElem?] at there
        exact there
    rw [Project.appendNamespace, List.getElem?_append] at found
    split at found
    case isTrue => exact forest.earlier found notFirst
    case isFalse after =>
        obtain rfl := List.mem_singleton.1 (List.mem_of_getElem? found)
        exact Nat.lt_of_lt_of_le parentBelow (Nat.le_of_not_lt after)
  distinct := by
    have notEmpty : project.namespaces ≠ [] := by
      intro nothing
      have root := forest.rooted.root
      rw [nothing] at root
      cases root
    rw [keys_appendNamespace notEmpty]
    refine List.Nodup.append forest.distinct (List.nodup_singleton _) ?_
    rw [List.disjoint_singleton]
    exact key_notMem_keys free

theorem asClass
    (forest : project.Forest) (found : project.namespace? id = some record)
    (plain : record.kind = .plain) : (project.asClass id record).Forest where
  rooted := forest.rooted.convert found plain
  earlier := by
    intro position other there notFirst
    rw [Project.asClass, List.getElem?_set] at there
    split at there
    case isTrue same =>
        split at there
        case isTrue =>
            cases there
            have foundHere := found
            rw [namespace?, same] at foundHere
            have below := forest.earlier foundHere notFirst
            exact below
        case isFalse => cases there
    case isFalse => exact forest.earlier there notFirst
  distinct := by
    rw [keys, map_key_asClass found]
    exact forest.distinct

theorem change (forest : project.Forest) (change : Change project next) :
    next.Forest := by
  cases change with
  | appendNamespace record known free kind =>
      refine forest.appendNamespace ?_ known free
      rcases kind with plain | library
      · rw [plain]
        exact nofun
      · rw [library]
        exact nofun
  | convert found plain => exact forest.asClass found plain
  | _ => exact forest.congr rfl

end Forest

theorem Reachable.forest (reachable : project.Reachable) : project.Forest :=
  reachable.keeps Forest.empty Forest.change

/-- Whether every namespace is still there and has become nothing but
possibly a class. -/
def KeepsNamespaces (before after : Project) : Prop :=
  ∀ (position : Nat) (record : NamespaceRecord),
    before.namespaces[position]? = some record →
    ∃ later, after.namespaces[position]? = some later ∧ record.Continues later

namespace KeepsNamespaces

theorem of_namespaces_eq (same : next.namespaces = project.namespaces) :
    project.KeepsNamespaces next := by
  intro position record found
  exact ⟨record, same ▸ found, .refl record⟩

theorem trans {last : Project} (earlier : project.KeepsNamespaces next)
    (later : next.KeepsNamespaces last) : project.KeepsNamespaces last := by
  intro position record found
  obtain ⟨middle, foundMiddle, first⟩ := earlier position record found
  obtain ⟨final, foundFinal, second⟩ := later position middle foundMiddle
  exact ⟨final, foundFinal, first.trans second⟩

theorem appendNamespace (project : Project) (record : NamespaceRecord) :
    project.KeepsNamespaces (project.appendNamespace record).2 := by
  intro position other found
  have inside := (List.getElem?_eq_some_iff.1 found).1
  refine ⟨other, ?_, .refl other⟩
  rw [Project.appendNamespace, List.getElem?_append_left inside]
  exact found

theorem asClass (found : project.namespace? id = some record)
    (plain : record.kind = .plain) :
    project.KeepsNamespaces (project.asClass id record) := by
  intro position other there
  rw [Project.asClass]
  by_cases same : id.position = position
  · subst same
    cases there.symm.trans found
    have inside := (List.getElem?_eq_some_iff.1 found).1
    refine ⟨{ record with kind := .ofClass }, List.getElem?_set_self inside,
      rfl, rfl, rfl, ?_⟩
    exact .inr ⟨plain, rfl⟩
  · refine ⟨other, ?_, .refl other⟩
    rw [List.getElem?_set_ne same]
    exact there

theorem of_change (change : Change project next) :
    project.KeepsNamespaces next := by
  cases change with
  | appendNamespace record => exact appendNamespace project record
  | convert found plain => exact asClass found plain
  | _ => exact of_namespaces_eq rfl

end KeepsNamespaces

theorem keys_getElem? (position : Nat) :
    project.keys[position]?
      = project.namespaces[position + 1]?.map NamespaceRecord.key := by
  rw [keys, List.getElem?_drop, List.getElem?_map, Nat.add_comm]

/-- As long as every namespace has a number of its own, looking a name up finds
a namespace exactly if that is the one below the global namespace with this
parent and this name. -/
theorem Forest.findNamespace?_eq_some_iff (forest : project.Forest)
    (numbered : project.namespaces.length ≤ wordBound) {parent : NamespaceId}
    {name : String} :
    project.findNamespace? parent name = some id
      ↔ id ≠ .global ∧ ∃ record, project.namespace? id = some record
        ∧ record.parent = parent ∧ record.name = name := by
  constructor
  · intro found
    rw [findNamespace?_eq] at found
    obtain ⟨⟨number, record⟩, named, rfl⟩ := Option.map_eq_some_iff.1 found
    have here := namespace?_of_namedNamespace? numbered named
    obtain ⟨known, notRoot, fits⟩ := here
    exact ⟨NamespaceId.position_ne_zero_iff.1 notRoot, record, known, fits⟩
  · rintro ⟨notRoot, record, known, rfl, rfl⟩
    obtain ⟨position, number⟩ :=
      Nat.exists_eq_succ_of_ne_zero (NamespaceId.position_ne_zero_iff.2 notRoot)
    rw [namespace?, number] at known
    have listed : project.keys[position]? = some record.key := by
      rw [keys_getElem?, known]
      rfl
    obtain ⟨inside, here⟩ := List.getElem?_eq_some_iff.1 listed
    have first :
        project.keys.findIdx? (fun key => key = (record.parent, record.name))
        = some position := by
      rw [List.findIdx?_eq_some_iff_getElem]
      refine ⟨inside, decide_eq_true here, ?_⟩
      intro earlier before same
      have sameKey : project.keys[earlier] = project.keys[position] := by
        rw [here]
        exact of_decide_eq_true same
      exact Nat.ne_of_lt before
        ((List.Nodup.getElem_inj_iff forest.distinct).1 sameKey)
    have numbered : NamespaceId.ofPosition (position + 1) = id := by
      rw [← Nat.succ_eq_add_one, ← number]
      exact NamespaceId.ofPosition_position id
    rw [findNamespace?_eq_keys]
    exact (congrArg (Option.map _) first).trans (congrArg some numbered)

end Project

end DelphiRtti
