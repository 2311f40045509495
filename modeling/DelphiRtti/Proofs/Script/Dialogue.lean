import DelphiRtti.Script

/-!
# Dialogues

The calls of a run with the host's answers to them.  A protocol is a relation
that says, of a phase and an exchange, in which phase the exchange may leave the
dialogue.  `Script.Follows` states for every host that a script keeps to a
protocol, and it is proved along the script, one rule for each way to build one.
-/

namespace DelphiRtti

/-- A request and the answer to it. -/
structure Exchange where
  request : Request
  response : request.Response

/-- Whether a host that starts in one state gives these answers and
ends in the other state. -/
inductive Host.Answers {σ : Type} (host : Host σ) :
    σ → List Exchange → σ → Prop where
  | nil (state : σ) : Answers host state [] state
  | cons {state : σ} {request : Request} {rest : List Exchange} {last : σ} :
      Answers host (host.respond request state).2 rest last →
      Answers host state
        (⟨request, (host.respond request state).1⟩ :: rest) last

theorem Host.Answers.append {σ : Type} {host : Host σ} {start middle last : σ}
    {earlier later : List Exchange} (first : host.Answers start earlier middle)
    (second : host.Answers middle later last) :
    host.Answers start (earlier ++ later) last := by
  induction first with
  | nil => exact second
  | cons _ induction => exact .cons (induction second)

theorem Host.Answers.keeps {σ : Type} {host : Host σ} {property : σ → Prop}
    (kept : ∀ request state, property state →
      property (host.respond request state).2) {start last : σ}
    {exchanges : List Exchange} (answers : host.Answers start exchanges last)
    (initially : property start) : property last := by
  induction answers with
  | nil => exact initially
  | @cons state request _ _ _ induction =>
      exact induction (kept request state initially)

/-- The phases that a dialogue goes through. -/
inductive Path {φ : Type} (step : φ → Exchange → φ → Prop) :
    φ → List Exchange → φ → Prop where
  | nil (phase : φ) : Path step phase [] phase
  | cons {phase next last : φ} {exchange : Exchange} {rest : List Exchange} :
      step phase exchange next → Path step next rest last →
      Path step phase (exchange :: rest) last

namespace Path

variable {φ : Type} {step : φ → Exchange → φ → Prop}

theorem append {first middle last : φ}
    {earlier later : List Exchange} (opening : Path step first earlier middle)
    (closing : Path step middle later last) :
    Path step first (earlier ++ later) last := by
  induction opening with
  | nil => exact closing
  | cons exchanged _ induction => exact .cons exchanged (induction closing)

theorem split {first last : φ} {earlier later : List Exchange}
    (path : Path step first (earlier ++ later) last) :
    ∃ middle, Path step first earlier middle ∧ Path step middle later last := by
  induction earlier generalizing first with
  | nil => exact ⟨first, .nil first, path⟩
  | cons exchange earlier induction =>
      cases path with
      | cons exchanged rest =>
          obtain ⟨middle, opening, closing⟩ := induction rest
          exact ⟨middle, .cons exchanged opening, closing⟩

end Path

namespace Script

variable {σ α β : Type}

/-- Whether a script, started on a host in a state, makes exactly
these exchanges. -/
structure Exchanges (script : Script σ α) (host : Host σ) (state : σ)
    (exchanges : List Exchange) : Prop where
  requests : (script host state).events.requests
    = exchanges.map Exchange.request
  answers : host.Answers state exchanges (script host state).state

/-- A script keeps to a protocol from a phase on, whatever the host answers, and
its value fits the phase that it ends in. -/
def Follows {φ : Type} (step : φ → Exchange → φ → Prop) (script : Script σ α)
    (start : φ) (ends : α → φ → Prop) : Prop :=
  ∀ host state, ∃ exchanges last, script.Exchanges host state exchanges
    ∧ Path step start exchanges last ∧ ends (script host state).value last

variable {φ : Type} {step : φ → Exchange → φ → Prop} {start : φ}

theorem follows_pure
    {value : α} {ends : α → φ → Prop} (fits : ends value start) :
    Follows step (pure value : Script σ α) start ends :=
  fun _ state => ⟨[], start, ⟨rfl, .nil state⟩, .nil start, fits⟩

theorem follows_emit
    {events : Transcript} (silent : events.requests = []) :
    Follows step (emit events : Script σ Unit) start
      fun _ phase => phase = start :=
  fun _ state => ⟨[], start, ⟨silent, .nil state⟩, .nil start, rfl⟩

theorem follows_log {level : Level} {text : String} :
    Follows step (log level text : Script σ Unit) start
      fun _ phase => phase = start :=
  follows_emit rfl

theorem requests_logged (records : List LogRecord) :
    Transcript.requests (records.map .logged) = [] := by
  rw [Transcript.requests, List.filterMap_map]
  exact List.filterMap_eq_nil_iff.2 fun _ _ => rfl

/-- A request keeps to the protocol if every answer to it does. -/
theorem follows_ask {request : Request} {ends : request.Response → φ → Prop}
    (steps : ∀ response, ∃ next, step start ⟨request, response⟩ next
      ∧ ends response next) :
    Follows step (ask request : Script σ request.Response) start ends := by
  intro host state
  obtain ⟨next, exchanged, fits⟩ := steps (host.respond request state).1
  refine ⟨[⟨request, (host.respond request state).1⟩], next,
    ⟨?_, .cons (.nil _)⟩, .cons exchanged (.nil next), fits⟩
  exact congrArg (List.cons request)
    (requests_logged (host.records request state))

theorem follows_bind
    {script : Script σ α} {next : α → Script σ β} {between : α → φ → Prop}
    {ends : β → φ → Prop} (first : Follows step script start between)
    (second : ∀ value phase, between value phase → Follows step
      (next value) phase ends) : Follows step (script >>= next) start ends := by
  intro host state
  obtain ⟨earlier, middle, earlierMade, opening, reached⟩ := first host state
  obtain ⟨later, last, laterMade, closing, fits⟩ :=
    second _ middle reached host (script host state).state
  refine ⟨earlier ++ later, last, ⟨?_, ?_⟩, opening.append closing, fits⟩
  · rw [bind_events, Transcript.requests, List.filterMap_append,
      List.map_append]
    exact congr (congrArg _ earlierMade.requests) laterMade.requests
  · exact earlierMade.answers.append laterMade.answers

theorem Follows.weaken {script : Script σ α} {between ends : α → φ → Prop}
    (follows : Follows step script start between)
    (implies : ∀ value phase, between value phase → ends value phase) :
    Follows step script start ends := by
  intro host state
  obtain ⟨exchanges, last, made, path, fits⟩ := follows host state
  exact ⟨exchanges, last, made, path, implies _ _ fits⟩

end Script

namespace Attempt

variable {σ ε ε' α β φ : Type} {step : φ → Exchange → φ → Prop} {start : φ}

/-- An attempt keeps to a protocol if its script does. -/
def Follows (step : φ → Exchange → φ → Prop) (attempt : Attempt σ ε α)
    (start : φ) (ends : Except ε α → φ → Prop) : Prop :=
  Script.Follows step attempt.outcome start ends

theorem follows_pure
    {value : α} {ends : Except ε α → φ → Prop} (fits : ends (.ok value) start) :
    Follows step (pure value : Attempt σ ε α) start ends :=
  Script.follows_pure fits

theorem follows_throw {cause : ε}
    {ends : Except ε α → φ → Prop} (fits : ends (.error cause) start) :
    Follows step (throw cause : Attempt σ ε α) start ends :=
  Script.follows_pure fits

theorem follows_ofScript {script : Script σ (Except ε α)}
    {ends : Except ε α → φ → Prop} (follows : script.Follows step start ends) :
    Follows step (ofScript script) start ends :=
  follows

theorem follows_lift {script : Script σ α} {ends : Except ε α → φ → Prop}
    (follows : script.Follows step start fun value => ends (.ok value)) :
    Follows step (ExceptT.lift script : Attempt σ ε α) start ends := by
  intro host state
  obtain ⟨exchanges, last, made, path, fits⟩ := follows host state
  rw [outcome_lift]
  refine ⟨exchanges, last, ⟨?_, ?_⟩, path, fits⟩
  · rw [outcome_lift]
    exact made.requests
  · rw [outcome_lift]
    exact made.answers

theorem follows_mapError
    {change : ε → ε'} {attempt : Attempt σ ε α} {ends : Except ε' α → φ → Prop}
    (follows : attempt.Follows step start fun outcome =>
      ends (outcome.mapError change)) :
    Follows step (mapError change attempt) start ends := by
  intro host state
  obtain ⟨exchanges, last, made, path, fits⟩ := follows host state
  rw [outcome_mapError]
  refine ⟨exchanges, last, ⟨?_, ?_⟩, path, fits⟩
  · rw [outcome_mapError]
    exact made.requests
  · rw [outcome_mapError]
    exact made.answers

theorem follows_bind {attempt : Attempt σ ε α} {next : α → Attempt σ ε β}
    {between : Except ε α → φ → Prop} {ends : Except ε β → φ → Prop}
    (first : attempt.Follows step start between)
    (second : ∀ value phase, between (.ok value) phase →
      (next value).Follows step phase ends)
    (failed : ∀ cause phase, between (.error cause) phase → ends
      (.error cause) phase) : Follows step (attempt >>= next) start ends := by
  have opening : Script.Follows step attempt.outcome start between := first
  refine Script.follows_bind opening ?_
  intro outcome phase reached
  cases outcome with
  | ok value => exact second value phase reached
  | error cause => exact Script.follows_pure (failed cause phase reached)

theorem follows_lift_bind {script : Script σ α} {next : α → Attempt σ ε β}
    {between : α → φ → Prop}
    {ends : Except ε β → φ → Prop} (first : script.Follows step start between)
    (second : ∀ value phase, between value phase →
      (next value).Follows step phase ends) :
    Follows step (ExceptT.lift script >>= next) start ends := by
  have opening : (ExceptT.lift script : Attempt σ ε α).Follows step start
      fun outcome phase =>
      ∃ value, outcome = .ok value ∧ between value phase :=
    follows_lift (first.weaken fun value phase reached => ⟨value, rfl, reached⟩)
  refine follows_bind opening ?_ ?_
  · rintro value phase ⟨_, same, reached⟩
    cases same
    exact second value phase reached
  · rintro _ _ ⟨_, impossible, _⟩
    cases impossible

theorem follows_emit_bind {events : Transcript} {next : Unit → Attempt σ ε α}
    {ends : Except ε α → φ → Prop} (silent : events.requests = [])
    (rest : (next ()).Follows step start ends) :
    Follows step (ExceptT.lift (Script.emit events) >>= next) start ends := by
  refine follows_lift_bind (Script.follows_emit silent) ?_
  rintro _ _ rfl
  exact rest

end Attempt

end DelphiRtti
