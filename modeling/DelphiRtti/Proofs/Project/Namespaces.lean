import DelphiRtti.Proofs.Project.Reachable

/-!
# The namespaces of a reachable project

The global namespace comes first and is the only one of its kind.  As long as
positions fit into numbers of 32 bits, a namespace that is found by its name is
known under the number that is given for it.
-/

namespace DelphiRtti

open Text

theorem NamespaceId.position_ofPosition {position : Nat}
    (small : position < wordBound) :
    (ofPosition position).position = position :=
  UInt32.toNat_ofNat_of_lt' small

theorem NamespaceId.position_ofPosition_le (position : Nat) :
    (ofPosition position).position ≤ position := by
  rw [ofPosition, NamespaceId.position]
  exact Nat.mod_le ..

namespace Project

/-- The global namespace comes first and is the only one of its kind. -/
structure Rooted (project : Project) : Prop where
  root : project.namespaces[0]? = some .global
  only : ∀ {position : Nat} {record : NamespaceRecord},
    project.namespaces[position]? = some record → record.kind = .global →
      position = 0

variable {project : Project}

namespace Rooted

theorem global_known (rooted : Rooted project) :
    (project.namespace? .global).isSome := by
  rw [namespace?, isSome_getElem?]
  exact (List.getElem?_eq_some_iff.1 rooted.root).1

theorem empty : Rooted .empty where
  root := rfl
  only := by
    intro position record found _
    have inside := (List.getElem?_eq_some_iff.1 found).1
    exact Nat.lt_one_iff.1 inside

theorem congr {other : Project} (rooted : Rooted project)
    (same : other.namespaces = project.namespaces) : Rooted other where
  root := same ▸ rooted.root
  only := same ▸ rooted.only

theorem appendNamespace (rooted : Rooted project) {record : NamespaceRecord}
    (kind : record.kind ≠ .global) :
    Rooted (project.appendNamespace record).2 where
  root := by
    have inside := (List.getElem?_eq_some_iff.1 rooted.root).1
    rw [Project.appendNamespace, List.getElem?_append_left inside]
    exact rooted.root
  only := by
    intro position other found isGlobal
    rw [Project.appendNamespace, List.getElem?_append] at found
    split at found
    case isTrue => exact rooted.only found isGlobal
    case isFalse =>
        obtain rfl := List.mem_singleton.1 (List.mem_of_getElem? found)
        exact (kind isGlobal).elim

theorem convert (rooted : Rooted project) {id : NamespaceId}
    {record : NamespaceRecord} (found : project.namespace? id = some record)
    (plain : record.kind = .plain) :
    Rooted { project with
      namespaces := project.namespaces.set id.position
        { record with kind := .ofClass } } where
  root := by
    have notRoot : id.position ≠ 0 := by
      intro atRoot
      rw [namespace?, atRoot, rooted.root] at found
      cases found
      cases plain
    rw [List.getElem?_set_ne notRoot]
    exact rooted.root
  only := by
    intro position other foundOther isGlobal
    rw [List.getElem?_set] at foundOther
    split at foundOther
    case isTrue =>
        split at foundOther
        case isTrue =>
            cases foundOther
            cases isGlobal
        case isFalse => cases foundOther
    case isFalse => exact rooted.only foundOther isGlobal

theorem change {next : Project} (rooted : Rooted project)
    (change : Change project next) : Rooted next := by
  cases change with
  | appendNamespace record _ _ kind =>
      refine rooted.appendNamespace ?_
      rcases kind with plain | library
      · rw [plain]
        exact nofun
      · rw [library]
        exact nofun
  | convert found plain => exact rooted.convert found plain
  | _ => exact rooted.congr rfl

end Rooted

theorem Reachable.rooted (reachable : Reachable project) : Rooted project :=
  reachable.keeps Rooted.empty Rooted.change

theorem find?_zipIdx {α : Type} (accepts : α → Bool) (items : List α)
    (start : Nat) :
    ((items.zipIdx start).find? fun entry => accepts entry.1).map Prod.snd
      = (items.findIdx? accepts).map (· + start) := by
  induction items generalizing start with
  | nil => rfl
  | cons item items induction =>
      rw [List.zipIdx_cons, List.find?_cons, List.findIdx?_cons]
      cases accepts item with
      | true => simp
      | false =>
          rw [induction]
          cases items.findIdx? accepts with
          | none => rfl
          | some position => simp [Nat.add_comm, Nat.add_left_comm]

/-- The first namespace after the global one with a parent and a name,
with its number. -/
def namedNamespace? (project : Project) (parent : NamespaceId) (name : String) :
    Option (NamespaceId × NamespaceRecord) :=
  (project.namespacesWithIds.drop 1).find? fun entry =>
    entry.2.parent = parent && entry.2.name = name

theorem findNamespace?_eq (project : Project) (parent : NamespaceId)
    (name : String) :
    project.findNamespace? parent name
      = (project.namedNamespace? parent name).map Prod.fst := by
  rw [findNamespace?, namedNamespace?, namespacesWithIds]
  cases project.namespaces with
  | nil => rfl
  | cons root rest =>
      have positions := find?_zipIdx (fun record : NamespaceRecord =>
        record.parent = parent && record.name = name) rest 1
      simp only [List.zipIdx_cons, List.map_cons, List.drop_one, List.tail_cons,
        List.find?_map, Option.map_map, Function.comp_def, Nat.zero_add]
      calc
        (rest.findIdx? _).map
          (fun position => NamespaceId.ofPosition (position + 1))
          = ((rest.findIdx? _).map (· + 1)).map NamespaceId.ofPosition := by
            rw [Option.map_map]
            rfl
        _ = _ := by
            rw [← positions, Option.map_map]
            rfl

/-- A namespace that is found by its name is known under its number. -/
theorem namespace?_of_namedNamespace?
    (numbered : project.namespaces.length ≤ wordBound) {parent : NamespaceId}
    {name : String} {id : NamespaceId} {record : NamespaceRecord}
    (found : project.namedNamespace? parent name = some (id, record)) :
    project.namespace? id = some record ∧ id.position ≠ 0
      ∧ record.parent = parent ∧ record.name = name := by
  rw [namedNamespace?] at found
  have fits := List.find?_some found
  have member := List.mem_of_find?_eq_some found
  simp only [Bool.and_eq_true, decide_eq_true_eq] at fits
  rw [namespacesWithIds] at member
  cases all : project.namespaces with
  | nil => simp [all] at member
  | cons root rest =>
      simp only [all, List.zipIdx_cons, List.map_cons, List.drop_one,
        List.tail_cons, List.mem_map, Prod.exists, Nat.zero_add] at member
      obtain ⟨other, position, listed, same⟩ := member
      cases same
      obtain ⟨afterRoot, there⟩ :=
        List.mk_mem_zipIdx_iff_le_and_getElem?_sub.1 listed
      have inside := (List.getElem?_eq_some_iff.1 there).1
      rw [all, List.length_cons] at numbered
      have number : (NamespaceId.ofPosition position).position = position :=
        NamespaceId.position_ofPosition (by omega)
      refine ⟨?_, by omega, fits⟩
      rw [namespace?, all, number, List.getElem?_cons, if_neg (by omega)]
      exact there

end Project

end DelphiRtti
