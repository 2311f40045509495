import Mathlib.Order.Bounds.Basic
import DelphiRtti.Proofs.MethodTable.Walked

/-!
# What a walk finds on a project

The walk of a table is determined by the project that it begins with: the slots
are the longest run of slots that lead to functions, each slot is as that
project describes it, and the next slot gives the reason for the end.
-/

namespace DelphiRtti

open Text

namespace Project

open MethodTable

def Leads (project : Project) (base : Address) (number : Nat) : Prop :=
  ∃ target, project.image.pointerAt (slotPlace base number) = .ok target
    ∧ project.TakesFunction target

/-- What a project says of the slot with a number that comes after slots with
the `earlier` targets. -/
structure Describes (project : Project) (base : Address) (number : Nat)
    (earlier : List Address) (slot : Slot) : Prop where
  index : slot.index = number
  address : slot.address = slotPlace base number
  target : project.image.pointerAt slot.address = .ok slot.target
  takes : project.TakesFunction slot.target
  known : ∀ id, project.functionAt? slot.target = some id → slot.function = id
  created : slot.created = true ↔ project.functionAt? slot.target = none
    ∧ slot.target ∉ earlier
  fieldName : slot.fieldName = project.fieldName slot.target

/-- How a walk of at most `limit` slots ends after `count` slots. -/
def walkEnd (project : Project) (base : Address)
    (limit count : Nat) : WalkEnd :=
  if count = limit then .limitReached
  else
    match project.image.pointerAt (slotPlace base count) with
    | .ok target => .noFunction (slotPlace base count) target
    | .error cause => .failed ⟨count, slotPlace base count, .memory cause⟩

/-- The walk of a table of at most `limit` slots as a project describes it. -/
structure ReferenceWalk (project : Project) (base : Address) (limit : Nat)
    (walk : Walk) : Prop where
  longest : IsGreatest
    {count | count ≤ limit ∧ ∀ number < count, project.Leads base number}
    walk.slots.length
  stop : walk.stop = project.walkEnd base limit walk.slots.length
  slots : ∀ number slot, walk.slots[number]? = some slot →
    project.Describes base number
      ((walk.slots.take number).map Slot.target) slot
  sameFunction : ∀ left ∈ walk.slots, ∀ right ∈ walk.slots,
    left.function = right.function ↔ left.target = right.target

end Project

namespace MethodTable

variable {initial project : Project} {targets : List Address} {target : Address}
  {parent : NamespaceId} {number : Nat} {base : Address}

theorem resolve_nothing (tag : String) (walked : initial.Walked targets project)
    (takesNone : ¬ initial.TakesFunction target) :
    (resolve tag target).result Project.host project = (.ok none, project) := by
  rw [← walked.takesFunction_iff, Project.TakesFunction, not_or,
    Option.not_isSome_iff_eq_none]
    at takesNone
  rw [resolve_result_of_free takesNone.1, if_neg takesNone.2]

structure Resolves (initial project : Project) (targets : List Address)
    (target : Address) (function : FunctionId) (created : Bool)
    (left : Project) : Prop where
  placed : left.functionAt? target = some function
  created : created = true ↔ project.functionAt? target = none
  walked : initial.Walked (targets ++ [target]) left
  keeps : project.KeepsFunctions left

theorem resolve_function
    (tag : String) (walked : initial.Walked targets project)
    (takes : initial.TakesFunction target) :
    ∃ function created left,
      (resolve tag target).result Project.host project
        = (.ok (some (function, created)), left)
        ∧ Resolves initial project targets target function created left := by
  cases present : project.functionAt? target with
  | some function =>
      refine ⟨function, false, project, resolve_result_of_known present, ?_⟩
      exact ⟨present, by simp [present], walked.again present, .refl project⟩
  | none =>
      have executable : project.image.isExecutable target = true := by
        cases walked.takesFunction_iff.2 takes with
        | inl known => simp [present] at known
        | inr executable => exact executable
      have resolved : (resolve tag target).result Project.host project = _ :=
        resolve_result_of_free present
      rw [if_pos executable] at resolved
      refine ⟨_, true, _, resolved, ?_⟩
      constructor
      · rw [Project.functionAt?_withFunction]
        exact if_pos rfl
      · simp [present]
      · exact walked.define present executable
      · exact Project.keepsFunctions_withFunction present

theorem takeSlot_adds (tag className : String)
    (table : Structure) (walked : initial.Walked targets project)
    (filed : (initial.namespace? parent).isSome)
    (readable : initial.image.pointerAt (slotPlace base number) = .ok target)
    (takes : initial.TakesFunction target) :
    ∃ slot next left,
      (takeSlot tag className parent table number
        (slotPlace base number)).result Project.host project
          = (.ok (.added slot next), left)
        ∧ initial.Describes base number targets slot
        ∧ left.functionAt? slot.target = some slot.function
        ∧ initial.Walked (targets ++ [slot.target]) left
        ∧ project.KeepsFunctions left := by
  obtain ⟨function, created, middle, resolved, resolves⟩ :=
    resolve_function tag walked takes
  obtain ⟨record, known, here⟩ :=
    resolves.walked.indexed.functionAt?_eq_some_iff.1 resolves.placed
  have filedMiddle : (middle.namespace? parent).isSome := by
    rw [Project.namespace?, resolves.walked.namespaces]
    exact filed
  obtain ⟨definition, types, adopted⟩ :=
    adopt_result tag className filedMiddle known
  have readableNow : project.image.pointerAt (slotPlace base number)
      = .ok target := by
    rw [walked.image]
    exact readable
  have taken :=
    takeSlot_result_of_function table number readableNow resolved adopted
  refine ⟨_, _, _, taken, ?_, resolves.placed,
    resolves.walked.file known parent types, resolves.keeps⟩
  constructor
  · rfl
  · rfl
  · exact readable
  · exact takes
  · intro id before
    have still := resolves.walked.kept target id before
    rw [resolves.placed] at still
    exact Option.some.inj still
  · exact resolves.created.trans (walked.defined target)
  · have named := resolves.walked.named known
    rw [here] at named
    exact named

/-- Whether a walk over at most `remaining` slots, after slots with the
given targets, found what the first project says, and left every function
where its slot leads. -/
structure Explains (initial : Project) (base : Address) (number remaining : Nat)
    (targets : List Address) (walk : Walk) (last : Project) : Prop where
  length_le : walk.slots.length ≤ remaining
  slots : ∀ position slot, walk.slots[position]? = some slot →
    initial.Describes base (number + position)
      (targets ++ (walk.slots.take position).map Slot.target) slot
  functions : ∀ slot ∈ walk.slots,
    last.functionAt? slot.target = some slot.function
  indexed : last.Indexed
  stop : walk.stop
    = initial.walkEnd base (number + remaining) (number + walk.slots.length)
  stopped : walk.slots.length < remaining →
    ¬ initial.Leads base (number + walk.slots.length)

theorem explains_nil {remaining : Nat}
    (table : Structure) {last : Project} (indexed : last.Indexed)
    (stopped : 0 < remaining → ¬ initial.Leads base number) :
    Explains initial base number remaining targets
      ⟨[], initial.walkEnd base (number + remaining) number, table⟩ last where
  length_le := Nat.zero_le _
  slots := by simp
  functions := by simp
  indexed := indexed
  stop := rfl
  stopped := stopped

theorem Explains.cons {remaining : Nat} {slot : Slot} {rest : Walk}
    {last : Project} (describes : initial.Describes base number targets slot)
    (placed : last.functionAt? slot.target = some slot.function)
    (explains : Explains initial base (number + 1) remaining
      (targets ++ [slot.target]) rest last) :
    Explains initial base number (remaining + 1) targets
      { rest with slots := slot :: rest.slots }
      last where
  length_le := Nat.succ_le_succ explains.length_le
  slots := by
    intro position other found
    cases position with
    | zero =>
        cases found
        simpa using describes
    | succ position =>
        have later := explains.slots position other found
        simpa [Nat.add_assoc, Nat.add_comm 1] using later
  functions := by
    intro other member
    cases List.mem_cons.1 member with
    | inl first =>
        rw [first]
        exact placed
    | inr later => exact explains.functions other later
  indexed := explains.indexed
  stop := by
    have stop := explains.stop
    simpa [Nat.add_assoc, Nat.add_comm 1] using stop
  stopped := by
    intro short
    have stopped := explains.stopped (Nat.lt_of_succ_lt_succ short)
    simpa [Nat.add_assoc, Nat.add_comm 1] using stopped

theorem walkFrom_stops (tag className : String) (table : Structure)
    (remaining : Nat) (walked : initial.Walked targets project)
    (stopped : ¬ initial.Leads base number) :
    (walkFrom tag className parent base (remaining + 1) number table).result
      Project.host project
      = (⟨[], initial.walkEnd base (number + (remaining + 1)) number, table⟩,
        project) := by
  have place : slotAddress base number = slotPlace base number :=
    slotAddress_eq base number
  rw [walkFrom_succ_result, place]
  cases readable : initial.image.pointerAt (slotPlace base number) with
  | error cause =>
      have unreadable : project.image.pointerAt (slotPlace base number)
          = .error cause := by
        rw [walked.image]
        exact readable
      rw [takeSlot_result_of_unreadable unreadable]
      simp [Project.walkEnd, readable]
  | ok target =>
      have readableNow : project.image.pointerAt (slotPlace base number)
          = .ok target := by
        rw [walked.image]
        exact readable
      have takesNone : ¬ initial.TakesFunction target :=
        fun takes => stopped ⟨target, readable, takes⟩
      rw [takeSlot_result_of_nothing readableNow
        (resolve_nothing tag walked takesNone)]
      simp [Project.walkEnd, readable]

theorem walkFrom_explains (tag className : String) (base : Address)
    (filed : (initial.namespace? parent).isSome) (remaining number : Nat)
    (walked : initial.Walked targets project) (table : Structure) :
    ∃ walk last,
      (walkFrom tag className parent base remaining number table).result
        Project.host project
          = (walk, last)
        ∧ Explains initial base number remaining targets walk last
        ∧ project.KeepsFunctions last := by
  induction remaining generalizing project targets number table with
  | zero =>
      have ends : initial.walkEnd base (number + 0) number = .limitReached :=
        if_pos rfl
      refine ⟨_, _, walkFrom_zero_result .., ?_, .refl project⟩
      rw [← ends]
      exact explains_nil table walked.indexed nofun
  | succ remaining induction =>
      by_cases leads : initial.Leads base number
      · obtain ⟨target, readable, takes⟩ := leads
        obtain ⟨slot, next, left, taken, describes, placed, walkedOn, keeps⟩ :=
          takeSlot_adds tag className table walked filed readable takes
        obtain ⟨rest, last, ran, explains, keepsLater⟩ :=
          induction (number + 1) walkedOn next
        have place : slotAddress base number = slotPlace base number :=
          slotAddress_eq base number
        rw [walkFrom_succ_result, place, taken]
        simp only [ran]
        refine ⟨_, _, rfl, .cons describes (keepsLater _ _ placed) explains, ?_⟩
        exact keeps.trans keepsLater
      · rw [walkFrom_stops tag className table remaining walked leads]
        exact ⟨_, _, rfl, explains_nil table walked.indexed fun _ => leads,
          .refl project⟩

theorem Explains.leads {remaining : Nat} {walk : Walk} {last : Project}
    (explains : Explains initial base 0 remaining [] walk last) :
    ∀ number < walk.slots.length, initial.Leads base number := by
  intro number inside
  have describes := explains.slots number _ (List.getElem?_eq_getElem inside)
  rw [Nat.zero_add] at describes
  have readable := describes.target
  rw [describes.address] at readable
  exact ⟨_, readable, describes.takes⟩

theorem Explains.sameFunction {remaining : Nat} {walk : Walk}
    {last : Project} (explains : Explains initial base 0 remaining [] walk last)
    {left right : Slot}
    (leftThere : left ∈ walk.slots) (rightThere : right ∈ walk.slots) :
    left.function = right.function ↔ left.target = right.target := by
  have atLeft := explains.functions left leftThere
  have atRight := explains.functions right rightThere
  constructor
  · intro same
    rw [← same] at atRight
    exact explains.indexed.functionAt?_injective atLeft atRight
  · intro same
    rw [same, atRight] at atLeft
    exact (Option.some.inj atLeft).symm

/-- The walk of a table is the one that the project describes before it. -/
theorem walk_eq_reference (reachable : initial.Reachable)
    (filed : (initial.namespace? parent).isSome) (tag className : String)
    (base : Address) (maxSlots : UInt32) :
    initial.ReferenceWalk base maxSlots.toNat
      (walk tag className parent base maxSlots Project.host initial).value := by
  obtain ⟨found, last, ran, explains, _⟩ :=
    walkFrom_explains tag className base filed maxSlots.toNat 0
    (.refl reachable.indexed) (.named (className ++ "VT"))
  have value :
      (walk tag className parent base maxSlots Project.host initial).value
        = found :=
    congrArg Prod.fst ran
  rw [value]
  constructor
  · refine ⟨⟨explains.length_le, explains.leads⟩, ?_⟩
    intro count fits
    by_contra more
    have short : found.slots.length < count := Nat.lt_of_not_le more
    have stopped := explains.stopped (Nat.lt_of_lt_of_le short fits.1)
    rw [Nat.zero_add] at stopped
    exact stopped (fits.2 _ short)
  · simpa using explains.stop
  · intro number slot there
    simpa using explains.slots number slot there
  · intro left leftThere right rightThere
    exact explains.sameFunction leftThere rightThere

/-- A table of two slots that lead to its own first byte, and a word
that leads nowhere. -/
def smallTable : Region :=
  ⟨"table", .ofNat 4096, #[0, 16, 0, 0, 0, 16, 0, 0, 0, 0, 0, 0],
    ⟨true, false, true⟩⟩

theorem walk_smallTable :
    ((Project.perform (.map smallTable) .empty).namespace? .global).isSome
      = true
      ∧ (walk "" "T" .global smallTable.base 100 Project.host
          (.perform (.map smallTable) .empty)).value.slots.length = 2 := by
  have filed : ((Project.perform (.map smallTable) .empty).namespace?
      .global).isSome = true := rfl
  have reference :=
    walk_eq_reference
      (.perform (.map smallTable) .empty) filed "" "T" smallTable.base 100
  refine ⟨filed, Nat.le_antisymm ?_ (reference.longest.2 ⟨by decide, ?_⟩)⟩
  · by_contra more
    obtain ⟨target, read, takes⟩ :=
      reference.longest.1.2 2 (Nat.lt_of_not_le more)
    cases read
    cases takes with
    | inl known => cases known
    | inr executable => cases executable
  · intro number inside
    refine ⟨smallTable.base, ?_, .inr rfl⟩
    cases Nat.lt_succ_iff_lt_or_eq.1 inside with
    | inl first =>
        cases Nat.lt_one_iff.1 first
        rfl
    | inr second =>
        cases second
        rfl

end MethodTable

end DelphiRtti
