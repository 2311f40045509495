import DelphiRtti.Script

/-!
# Results of attempts

What an attempt comes to and the state in which it leaves its host, without the
events on the way.  Every step of an attempt has an equation here, so a run on a
given host is read off step by step.
-/

namespace DelphiRtti

@[simp]
theorem mapError_ok {ε ε' α : Type} (change : ε → ε') (value : α) :
    (Except.ok value).mapError change = .ok value := rfl

@[simp]
theorem mapError_error {ε ε' α : Type} (change : ε → ε') (cause : ε) :
    (Except.error cause : Except ε α).mapError change = .error
    (change cause) := rfl

theorem toOption_eq_some_iff {ε α : Type} {outcome : Except ε α} {value : α} :
    outcome.toOption = some value ↔ outcome = .ok value := by
  cases outcome with
  | error cause => simp [Except.toOption]
  | ok other => simp [Except.toOption]

/-- What is seen of a value shows that there is one. -/
theorem map_toOption_eq_some_iff {ε α β : Type} {outcome : Except ε α}
    {view : α → β} {shown : β} :
    outcome.toOption.map view = some shown
      ↔ ∃ value, outcome = .ok value ∧ view value = shown := by
  simp only [Option.map_eq_some_iff, toOption_eq_some_iff]

namespace Script

variable {σ : Type}

@[simp]
theorem ask_value (request : Request) (host : Host σ) (state : σ) :
    (ask request host state).value = (host.respond request state).1 := rfl

@[simp]
theorem ask_state (request : Request) (host : Host σ) (state : σ) :
    (ask request host state).state = (host.respond request state).2 := rfl

@[simp]
theorem emit_state (events : Transcript) (host : Host σ) (state : σ) :
    (emit events host state).state = state := rfl

/-- The value of a script and the state that it leaves. -/
def result {α : Type} (script : Script σ α) (host : Host σ)
    (state : σ) : α × σ :=
  ((script host state).value, (script host state).state)

end Script

namespace Attempt

variable {σ ε ε' α β : Type}

/-- What an attempt comes to, and the state that it leaves. -/
def result (attempt : Attempt σ ε α) (host : Host σ) (state : σ) :
    Except ε α × σ :=
  ((attempt.outcome host state).value, (attempt.outcome host state).state)

@[simp]
theorem result_ofScript (script : Script σ (Except ε α))
    (host : Host σ) (state : σ) :
    (ofScript script).result host state
      = ((script host state).value, (script host state).state) :=
  rfl

@[simp]
theorem result_lift (script : Script σ α) (host : Host σ) (state : σ) :
    result (ExceptT.lift script : Attempt σ ε α) host state
      = (.ok (script host state).value, (script host state).state) := rfl

@[simp]
theorem result_mapError (change : ε → ε') (attempt : Attempt σ ε α)
    (host : Host σ) (state : σ) :
    (mapError change attempt).result host state
      = ((attempt.result host state).1.mapError change,
        (attempt.result host state).2) := by
  simp only [result, outcome_mapError]

/-- What follows an attempt runs on the state that the attempt left, if
the attempt succeeded. -/
theorem result_bind (attempt : Attempt σ ε α) (next : α → Attempt σ ε β)
    (host : Host σ) (state : σ) :
    (attempt >>= next).result host state
      = match attempt.result host state with
        | (.ok value, left) => (next value).result host left
        | (.error cause, left) => (.error cause, left) := by
  simp only [result, outcome_bind]
  cases (attempt.outcome host state).value with
  | ok value => rfl
  | error cause => rfl

theorem result_bind_of_ok
    {attempt : Attempt σ ε α} {host : Host σ} {state left : σ} {value : α}
    (ran : attempt.result host state = (.ok value, left))
    (next : α → Attempt σ ε β) :
    (attempt >>= next).result host state = (next value).result host left := by
  rw [result_bind, ran]

theorem result_bind_of_error
    {attempt : Attempt σ ε α} {host : Host σ} {state left : σ}
    {cause : ε} (ran : attempt.result host state = (.error cause, left))
    (next : α → Attempt σ ε β) :
    (attempt >>= next).result host state = (.error cause, left) := by
  rw [result_bind, ran]

/-- Two attempts in a row succeed if the first does, and the second on
what the first left. -/
theorem result_bind_eq_ok_iff {attempt : Attempt σ ε α}
    {next : α → Attempt σ ε β} {host : Host σ} {state last : σ} {value : β} :
    (attempt >>= next).result host state = (.ok value, last)
      ↔ ∃ first middle, attempt.result host state = (.ok first, middle)
        ∧ (next first).result host middle = (.ok value, last) := by
  rw [result_bind]
  rcases attempt.result host state with ⟨cause | first, middle⟩
  · simp
  · constructor
    · intro ran
      exact ⟨first, middle, rfl, ran⟩
    · rintro ⟨_, _, same, ran⟩
      cases same
      exact ran

theorem result_mapError_eq_ok_iff {change : ε → ε'} {attempt : Attempt σ ε α}
    {host : Host σ} {state last : σ} {value : α} :
    (mapError change attempt).result host state = (.ok value, last)
      ↔ attempt.result host state = (.ok value, last) := by
  rw [result_mapError]
  rcases attempt.result host state with ⟨cause | first, left⟩
  · simp
  · simp

/-- Whether an attempt comes to a decision, as far as `view` shows its value,
and leaves the state `failed` where the decision is a failure. -/
structure Decides (attempt : Attempt σ ε α) (host : Host σ) (state : σ)
    (view : α → β) (decision : Except ε β) (failed : σ) : Prop where
  outcome : (attempt.result host state).1.map view = decision
  state : ∀ cause, decision = .error cause →
    (attempt.result host state).2 = failed

variable {γ : Type} {host : Host σ} {state left failed : σ} {view : β → γ}
  {next : α → Attempt σ ε β}

theorem decides_pure (value : β) :
    (pure value : Attempt σ ε β).Decides host state view
      (.ok (view value)) failed :=
  ⟨rfl, nofun⟩

theorem decides_bind {attempt : Attempt σ ε α} {outcome : Except ε α}
    {rest : α → Except ε γ} (ran : attempt.result host state = (outcome, left))
    (refused : ∀ cause, outcome = .error cause → left = failed)
    (continued : ∀ value, outcome = .ok value →
      (next value).Decides host left view (rest value) failed) :
    (attempt >>= next).Decides host state view (outcome >>= rest) failed := by
  cases outcome with
  | error cause =>
      have stopped := result_bind_of_error ran next
      refine ⟨?_, fun _ _ => ?_⟩
      · rw [stopped]
        rfl
      · rw [stopped]
        exact refused cause rfl
  | ok value =>
      have run := result_bind_of_ok ran next
      obtain ⟨outcome, state⟩ := continued value rfl
      refine ⟨?_, fun cause failure => ?_⟩
      · rw [run]
        exact outcome
      · rw [run]
        exact state cause failure

theorem decides_lift_bind {script : Script σ α} {decision : Except ε γ}
    (continued : (next (script host state).value).Decides host
      (script host state).state view decision failed) :
    (ExceptT.lift script >>= next : Attempt σ ε β).Decides
      host state view decision failed := by
  have run : (ExceptT.lift script >>= next : Attempt σ ε β).result host state
      = (next (script host state).value).result host
        (script host state).state := by
    rw [result_bind, result_lift]
  refine ⟨?_, ?_⟩
  · rw [run]
    exact continued.outcome
  · rw [run]
    exact continued.state

end Attempt

end DelphiRtti
