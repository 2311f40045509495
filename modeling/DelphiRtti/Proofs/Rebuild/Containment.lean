import DelphiRtti.Proofs.Rebuild.CallOrder

/-!
# Failures of single calls

Where a failed call stands decides what it costs.  Outside the slots it is
the last call and the rebuild fails.  Inside a slot the walk is over, the
two structures are stored all the same, and only their storing decides
whether the rebuild succeeds.
-/

namespace DelphiRtti

open Text

inductive Exchange.Fails : Exchange → Prop where
  | readByte {address cause} : Fails ⟨.readByte address, .error cause⟩
  | readWord {address cause} : Fails ⟨.readWord address, .error cause⟩
  | readBytes {address count cause} :
      Fails ⟨.readBytes address count, .error cause⟩
  | createData {address dataType cause} :
      Fails ⟨.createData address dataType, .error cause⟩
  | findOrCreateNamespace {parent name source cause} :
      Fails ⟨.findOrCreateNamespace parent name source, .error cause⟩
  | convertToClass {id cause} : Fails ⟨.convertToClass id, .error cause⟩
  | createFunction {address name cause} :
      Fails ⟨.createFunction address name, .error cause⟩
  | setParent {function parent cause} :
      Fails ⟨.setParent function parent, .error cause⟩
  | functionName {function cause} : Fails ⟨.functionName function, .error cause⟩
  | functionDefinition {function cause} :
      Fails ⟨.functionDefinition function, .error cause⟩
  | addType {dataType policy cause} :
      Fails ⟨.addType dataType policy, .error cause⟩

/-- The host could define no function where one was asked for. -/
def Exchange.DefinesNothing (exchange : Exchange) : Prop :=
  ∃ target name, exchange = ⟨.createFunction target name, .ok none⟩

namespace Rebuild

variable {address : Address} {dialect : Dialect}

/-- The closing calls: the structure of the table is stored and, unless that is
refused, the structure of the class. -/
inductive Registers (className : String) : List Exchange → Prop where
  | tableRefused {table : Structure} {cause : HostError}
      (named : table.name = className ++ "VT") :
      Registers className [⟨.addType (.struct table) .replace, .error cause⟩]
  | tableStored {table layout : Structure} {stored : DataType}
      {answer : Except HostError DataType}
      (named : table.name = className ++ "VT")
      (layoutNamed : layout.name = className) :
      Registers className
        [⟨.addType (.struct table) .replace, .ok stored⟩,
          ⟨.addType (.struct layout) .replace, answer⟩]

namespace Phase

def afterFailure : Phase → Phase
  | .slot work _ _ => .tableType work
  | _ => .refused

theorem advance_of_fails {phase : Phase} {exchange : Exchange}
    (awaited : phase.Awaits address dialect exchange.request)
    (failed : exchange.Fails) :
    phase.advance address dialect exchange = phase.afterFailure := by
  cases phase with
  | slot work index next =>
      cases next <;> cases failed <;> cases awaited <;> rfl
  | classNamespace record name =>
      obtain ⟨_, awaited⟩ := awaited
      cases failed <;> cases awaited
      rfl
  | tableType work =>
      obtain ⟨_, _, awaited⟩ := awaited
      cases failed <;> cases awaited
      rfl
  | instanceType work =>
      obtain ⟨_, _, awaited⟩ := awaited
      cases failed <;> cases awaited
      rfl
  | _ => cases failed <;> cases awaited <;> rfl

theorem advance_of_definesNothing
    {work : Work} {index : Nat} {next : SlotPhase} {exchange : Exchange}
    (awaited :
      (Phase.slot work index next).Awaits address dialect exchange.request)
    (nothing : exchange.DefinesNothing) :
    (Phase.slot work index next).advance address dialect exchange
      = .tableType work := by
  obtain ⟨target, name, rfl⟩ := nothing
  cases next <;> cases awaited
  rfl

theorem Final.path {phase last : Phase} {exchanges : List Exchange}
    (final : phase.Final address dialect)
    (path : Path (Step address dialect) phase exchanges last) :
    exchanges = [] ∧ last = phase := by
  cases path with
  | nil => exact ⟨rfl, rfl⟩
  | cons step _ => exact (final _ step.1).elim

theorem refused_final : Phase.refused.Final address dialect :=
    fun _ impossible => impossible

theorem rebuilt_final : Phase.rebuilt.Final address dialect :=
    fun _ impossible => impossible

/-- From the end of the walk on there is only the storing, which
decides alone. -/
theorem registers_of_path {work : Work}
    {exchanges : List Exchange} {last : Phase}
    (path : Path (Step address dialect) (.tableType work) exchanges last)
    (final : last.Final address dialect) :
    Registers work.name.text exchanges
      ∧ (last = .rebuilt ↔ ∀ exchange ∈ exchanges, ¬ exchange.Fails) := by
  cases path with
  | nil => exact (final _ ⟨.named (work.name.text ++ "VT"), rfl, rfl⟩).elim
  | @cons _ _ _ exchange rest step path =>
      obtain ⟨request, response⟩ := exchange
      obtain ⟨⟨table, named, awaited⟩, rfl⟩ := step
      subst awaited
      cases response with
      | error cause =>
          obtain ⟨rfl, rfl⟩ := refused_final.path path
          exact ⟨.tableRefused named, by simp,
            fun unfailing => (unfailing _ List.mem_cons_self .addType).elim⟩
      | ok stored =>
          cases path with
          | nil => exact (final _ ⟨.named work.name.text, rfl, rfl⟩).elim
          | @cons _ _ _ exchange rest step path =>
              obtain ⟨request, answer⟩ := exchange
              obtain ⟨⟨layout, layoutNamed, awaited⟩, rfl⟩ := step
              subst awaited
              cases answer with
              | error cause =>
                  obtain ⟨rfl, rfl⟩ := refused_final.path path
                  exact ⟨.tableStored named layoutNamed, by
                    simp, fun unfailing =>
                    (unfailing _ (List.mem_cons_of_mem _ List.mem_cons_self)
                      .addType).elim⟩
              | ok instanceType =>
                  obtain ⟨rfl, rfl⟩ := rebuilt_final.path path
                  refine ⟨.tableStored named layoutNamed, fun _ => ?_,
                    fun _ => rfl⟩
                  intro exchange member failed
                  rcases List.mem_cons.1 member with rfl | member
                  · cases failed
                  · obtain rfl := List.mem_singleton.1 member
                    cases failed

def slotWork? : Phase → Option Work
  | .slot work _ _ => some work
  | _ => none

theorem afterFailure_outside {phase : Phase}
    (outside : phase.slotWork? = none) : phase.afterFailure = .refused := by
  cases phase with
  | slot work index next => cases outside
  | _ => rfl

theorem advance_of_stops {phase : Phase} {work : Work} {exchange : Exchange}
    (inside : phase.slotWork? = some work)
    (awaited : phase.Awaits address dialect exchange.request)
    (stops : exchange.Fails ∨ exchange.DefinesNothing) :
    phase.advance address dialect exchange = .tableType work := by
  cases phase with
  | slot other index next =>
      obtain rfl : other = work := Option.some.inj inside
      rcases stops with failed | nothing
      · exact advance_of_fails awaited failed
      · exact advance_of_definesNothing awaited nothing
  | _ => cases inside

end Phase

end Rebuild

/-- For every host, the calls of a rebuild come in the order of its phases, and
the rebuild stops where no further call is awaited.  A call that fails outside
the slots is the last one, and the rebuild fails.  Inside a slot, a call that
fails or defines no function is followed by the storing of the two structures
alone, and the rebuild succeeds exactly if both are stored. -/
theorem rebuild_calls_ordered_and_contained {σ : Type} (host : Host σ)
    (state : σ) (address : Address) (dialect : Dialect) :
    ∃ exchanges last,
      (rebuild address dialect).Exchanges host state exchanges
        ∧ Path (Rebuild.Phase.Step address dialect) .tableBase exchanges last
        ∧ last.Final address dialect
        ∧ ((rebuild address dialect host state).value.isOk = true
          ↔ last = .rebuilt)
        ∧ ∀ earlier exchange later, exchanges = earlier ++ exchange :: later →
            ∃ phase,
              Path (Rebuild.Phase.Step address dialect) .tableBase earlier phase
              ∧ (phase.slotWork? = none → exchange.Fails →
                  later = []
                    ∧ (rebuild address dialect host state).value.isOk = false)
              ∧ ∀ work, phase.slotWork? = some work →
                  exchange.Fails ∨ exchange.DefinesNothing →
                    Rebuild.Registers work.name.text later
                      ∧ ((rebuild address dialect host state).value.isOk = true
                        ↔ ∀ other ∈ later, ¬ other.Fails) := by
  obtain ⟨exchanges, last, made, path, success, final⟩ :=
    rebuild_follows address dialect host state
  refine ⟨exchanges, last, made, path, final, success, ?_⟩
  rintro earlier exchange later rfl
  obtain ⟨phase, opening, rest⟩ := path.split
  refine ⟨phase, opening, ?_⟩
  cases rest with
  | cons step closing =>
      obtain ⟨awaited, rfl⟩ := step
      constructor
      · intro outside failed
        rw [Rebuild.Phase.advance_of_fails awaited failed,
          Rebuild.Phase.afterFailure_outside outside] at closing
        obtain ⟨rfl, rfl⟩ := Rebuild.Phase.refused_final.path closing
        exact ⟨rfl, Bool.eq_false_iff.2 fun succeeded =>
          nomatch success.1 succeeded⟩
      · intro work inside stops
        rw [Rebuild.Phase.advance_of_stops inside awaited stops] at closing
        obtain ⟨registers, stored⟩ :=
          Rebuild.Phase.registers_of_path closing final
        exact ⟨registers, success.trans stored⟩

end DelphiRtti
