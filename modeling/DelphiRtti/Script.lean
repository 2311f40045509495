import DelphiRtti.Transcript

/-!
# Scripts and their hosts

A script works on a project only by asking a host, which answers one request
after another and may change its own state on the way.  A run gives the script's
value, the host's last state and the transcript.
-/

namespace DelphiRtti

/-- What scripts run against, with a state of its own. -/
structure Host (σ : Type) where
  respond : (request : Request) → σ → request.Response × σ
  /-- What the host itself leaves in the log when it is asked. -/
  records : Request → σ → List LogRecord := fun _ _ => []

structure Run (σ α : Type) where
  value : α
  state : σ
  events : Transcript

def Run.after {σ α : Type} (run : Run σ α) (events : Transcript) : Run σ α :=
  { run with events := events ++ run.events }

/-- A computation that asks a host and leaves events behind. -/
def Script (σ α : Type) : Type := Host σ → σ → Run σ α

namespace Script

variable {σ α β : Type}

protected def pure (value : α) : Script σ α := fun _ state => ⟨value, state, []⟩

protected def bind (script : Script σ α) (next : α → Script σ β) :
    Script σ β := fun host state =>
  let first := script host state
  let second := next first.value host first.state
  ⟨second.value, second.state, first.events ++ second.events⟩

instance : Monad (Script σ) where
  pure := Script.pure
  bind := Script.bind

instance : LawfulMonad (Script σ) := LawfulMonad.mk' (Script σ)
  (by
    intro α script
    funext host state
    simp [Functor.map, Script.bind, Script.pure])
  (by
    intro α β value next
    funext host state
    simp [Bind.bind, Pure.pure, Script.bind, Script.pure])
  (by
    intro α β γ script next last
    funext host state
    simp [Bind.bind, Script.bind])

def ask (request : Request) : Script σ request.Response := fun host state =>
  let answer := host.respond request state
  ⟨answer.1, answer.2, .asked request
    :: (host.records request state).map .logged⟩

def emit (events : Transcript) :
    Script σ Unit := fun _ state => ⟨(), state, events⟩

def log (level : Level) (text : String) : Script σ Unit := emit
    [.logged ⟨level, text⟩]

@[simp]
theorem pure_apply (value : α) (host : Host σ) (state : σ) :
    (pure value : Script σ α) host state = ⟨value, state, []⟩ := rfl

@[simp]
theorem bind_value (script : Script σ α) (next : α → Script σ β) (host : Host σ)
    (state : σ) :
    ((script >>= next) host state).value
      = (next (script host state).value host
          (script host state).state).value := rfl

@[simp]
theorem bind_state (script : Script σ α) (next : α → Script σ β) (host : Host σ)
    (state : σ) :
    ((script >>= next) host state).state
      = (next (script host state).value host
          (script host state).state).state := rfl

@[simp]
theorem bind_events (script : Script σ α) (next : α → Script σ β)
    (host : Host σ) (state : σ) :
    ((script >>= next) host state).events
      = (script host state).events
        ++ (next (script host state).value host
          (script host state).state).events := rfl

end Script

abbrev Attempt (σ ε α : Type) : Type := ExceptT ε (Script σ) α

namespace Attempt

variable {σ ε ε' α β : Type}

def ofScript (script : Script σ (Except ε α)) :
    Attempt σ ε α := ExceptT.mk script

/-- The script that always succeeds with the outcome of the attempt. -/
def outcome (attempt : Attempt σ ε α) : Script σ (Except ε α) := attempt.run

/-- The same attempt with its failure seen as a cause of another kind. -/
def mapError (change : ε → ε') (attempt : Attempt σ ε α) : Attempt σ ε' α :=
  ExceptT.adapt change attempt

/-- A script that cannot fail succeeds with its value. -/
theorem outcome_lift (script : Script σ α) (host : Host σ) (state : σ) :
    outcome (ExceptT.lift script : Attempt σ ε α) host state
      = ⟨.ok (script host state).value, (script host state).state,
        (script host state).events⟩ :=
  congrArg (Run.mk _ _) (List.append_nil _)

theorem outcome_mapError (change : ε → ε') (attempt : Attempt σ ε α)
    (host : Host σ) (state : σ) :
    (mapError change attempt).outcome host state
      = ⟨(attempt.outcome host state).value.mapError change,
        (attempt.outcome host state).state,
          (attempt.outcome host state).events⟩ :=
  congrArg (Run.mk _ _) (List.append_nil _)

/-- What follows an attempt runs only when the attempt succeeds, and then
on the state it left. -/
theorem outcome_bind (attempt : Attempt σ ε α) (next : α → Attempt σ ε β)
    (host : Host σ) (state : σ) :
    (attempt >>= next).outcome host state
      = match (attempt.outcome host state).value with
        | .ok value =>
            ((next value).outcome host (attempt.outcome host state).state).after
              (attempt.outcome host state).events
        | .error cause =>
            ⟨.error cause, (attempt.outcome host state).state,
              (attempt.outcome host state).events⟩ := by
  change Script.bind (attempt.outcome) (ExceptT.bindCont next) host state = _
  simp only [Script.bind]
  generalize attempt.outcome host state = first
  obtain ⟨value, state, events⟩ := first
  cases value with
  | ok value => rfl
  | error cause => exact congrArg (Run.mk _ _) (List.append_nil events)

end Attempt

end DelphiRtti
