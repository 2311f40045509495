import DelphiRtti.Console
import DelphiRtti.Proofs.Script.Result

/-!
# What the analyst is told

The messages that a run writes to the console, without what it asks its host and
leaves in the log.  They are composed along a script like its results: what
follows an attempt is told after it, if the attempt succeeds.
-/

namespace DelphiRtti

namespace Transcript

/-- Whether the analyst is told exactly these messages, each on a line behind
the tag, and sees no popup. -/
structure Tells (transcript : Transcript) (tag : String)
    (messages : List String) : Prop where
  lines : transcript.lines = messages.map (Console.tagged tag)
  popups : transcript.popups = []

variable {earlier later : Transcript} {tag : String}
  {first second : List String}

theorem tells_nil (tag : String) : Tells [] tag [] :=
  ⟨rfl, rfl⟩

theorem tells_write (level : Level) (tag message : String) :
    (Console.write level tag message).Tells tag [message] :=
  ⟨rfl, rfl⟩

theorem lines_append (earlier later : Transcript) :
    Transcript.lines (earlier ++ later) = earlier.lines ++ later.lines :=
  List.filterMap_append

theorem popups_append (earlier later : Transcript) :
    Transcript.popups (earlier ++ later) = earlier.popups ++ later.popups :=
  List.filterMap_append

theorem Tells.append (opening : earlier.Tells tag first)
    (closing : later.Tells tag second) :
    Tells (earlier ++ later) tag (first ++ second) where
  lines := by
    rw [lines_append, opening.lines, closing.lines, List.map_append]
  popups := by
    rw [popups_append, opening.popups, closing.popups]
    rfl

/-- Nothing in the log is told. -/
theorem tells_logged (records : List LogRecord) (tag : String) :
    Tells (records.map .logged) tag [] where
  lines := by
    rw [Transcript.lines, List.filterMap_map]
    exact List.filterMap_eq_nil_iff.2 fun _ _ => rfl
  popups := by
    rw [Transcript.popups, List.filterMap_map]
    exact List.filterMap_eq_nil_iff.2 fun _ _ => rfl

end Transcript

variable {σ ε ε' α β : Type}

namespace Script

/-- Whether a script tells the analyst exactly these messages when it runs
on a host in a state. -/
def Tells (script : Script σ α) (host : Host σ) (state : σ) (tag : String)
    (messages : List String) : Prop :=
  (script host state).events.Tells tag messages

def Silent (script : Script σ α) : Prop :=
  ∀ host state tag, script.Tells host state tag []

variable {host : Host σ} {state : σ} {tag : String} {first second : List String}

theorem tells_bind {script : Script σ α}
    {next : α → Script σ β} (opening : script.Tells host state tag first)
    (closing : (next (script host state).value).Tells host
      (script host state).state tag second) :
    (script >>= next).Tells host state tag (first ++ second) :=
  Transcript.Tells.append opening closing

/-- Before a script that is silent, all is told by the first one. -/
theorem tells_bind_silent {script : Script σ α}
    {next : α → Script σ β} (opening : script.Tells host state tag first)
    (closing : ∀ value, (next value).Silent) :
    (script >>= next).Tells host state tag first := by
  rw [← List.append_nil first]
  exact tells_bind opening (closing _ _ _ _)

theorem silent_ask (request : Request) :
    Silent (ask request : Script σ request.Response) := by
  intro host state tag
  have asked : Transcript.Tells [.asked request] tag [] := ⟨rfl, rfl⟩
  exact asked.append (Transcript.tells_logged ..)

theorem tells_emit_write (level : Level) (message : String) :
    (emit (Console.write level tag message) : Script σ Unit).Tells
      host state tag [message] :=
  Transcript.tells_write level tag message

theorem silent_log (level : Level) (text : String) :
    Silent (log level text : Script σ Unit) :=
  fun _ _ tag => Transcript.tells_logged [⟨level, text⟩] tag

theorem silent_pure (value : α) : Silent (pure value : Script σ α) :=
  fun _ _ tag => Transcript.tells_nil tag

end Script

namespace Attempt

def Tells (attempt : Attempt σ ε α) (host : Host σ) (state : σ) (tag : String)
    (messages : List String) : Prop :=
  attempt.outcome.Tells host state tag messages

def Silent (attempt : Attempt σ ε α) : Prop :=
  ∀ host state tag, attempt.Tells host state tag []

variable {attempt : Attempt σ ε α} {next : α → Attempt σ ε β} {host : Host σ}
  {state left : σ} {tag : String} {first second : List String}

theorem tells_lift
    {script : Script σ α} (tells : script.Tells host state tag first) :
    Tells (ExceptT.lift script : Attempt σ ε α) host state tag first := by
  rw [Tells, Script.Tells, outcome_lift]
  exact tells

/-- What follows an attempt that succeeds is told on the state that
the attempt left. -/
theorem tells_bind_of_ok
    {value : α} (opening : attempt.Tells host state tag first)
    (ran : attempt.result host state = (.ok value, left))
    (closing : (next value).Tells host left tag second) :
    (attempt >>= next).Tells host state tag (first ++ second) := by
  obtain ⟨outcome, rfl⟩ := Prod.mk.inj ran
  rw [Tells, Script.Tells, outcome_bind, outcome]
  exact Transcript.Tells.append opening closing

theorem tells_bind_of_error
    {cause : ε} (opening : attempt.Tells host state tag first)
    (ran : attempt.result host state = (.error cause, left)) :
    (attempt >>= next).Tells host state tag first := by
  obtain ⟨outcome, rfl⟩ := Prod.mk.inj ran
  rw [Tells, Script.Tells, outcome_bind, outcome]
  exact opening

namespace Silent

theorem pure (value : α) : (Pure.pure value : Attempt σ ε α).Silent :=
  fun _ _ tag => Transcript.tells_nil tag

theorem throw (cause : ε) : (MonadExcept.throw cause : Attempt σ ε α).Silent :=
  fun _ _ tag => Transcript.tells_nil tag

theorem ofScript {script : Script σ (Except ε α)} (silent : script.Silent) :
    (Attempt.ofScript script).Silent :=
  silent

theorem lift {script : Script σ α} (silent : script.Silent) :
    Silent (ExceptT.lift script : Attempt σ ε α) :=
  fun host state tag => tells_lift (silent host state tag)

theorem mapError (change : ε → ε') (silent : attempt.Silent) :
    (Attempt.mapError change attempt).Silent := by
  intro host state tag
  rw [Tells, Script.Tells, outcome_mapError]
  exact silent host state tag

end Silent

/-- After a silent attempt that succeeds, all is told by what follows it. -/
theorem Silent.tells_bind {value : α} (opening : attempt.Silent)
    (ran : attempt.result host state = (.ok value, left))
    (closing : (next value).Tells host left tag second) :
    (attempt >>= next).Tells host state tag second :=
  tells_bind_of_ok (opening host state tag) ran closing

/-- Before attempts that are silent, all is told by the first one,
whatever it comes to. -/
theorem tells_bind_silent (opening : attempt.Tells host state tag first)
    (closing : ∀ value, (next value).Silent) :
    (attempt >>= next).Tells host state tag first := by
  cases ran : attempt.result host state with
  | mk outcome left =>
      cases outcome with
      | error cause => exact tells_bind_of_error opening ran
      | ok value =>
          rw [← List.append_nil first]
          exact tells_bind_of_ok opening ran (closing value host left tag)

/-- A question that is always answered is asked silently. -/
theorem tells_ask_bind
    {request : Request} {next : request.Response → Attempt σ ε β}
    (closing : (next (host.respond request state).1).Tells host
      (host.respond request state).2 tag second) :
    (ExceptT.lift (Script.ask request) >>= next : Attempt σ ε β).Tells
      host state tag second :=
  (Silent.lift (Script.silent_ask request)).tells_bind (result_lift ..) closing

theorem tells_write_bind {next : Unit → Attempt σ ε β} (level : Level)
    (message : String) (closing : (next ()).Tells host state tag second) :
    (ExceptT.lift (Script.emit (Console.write level tag message)) >>= next :
      Attempt σ ε β).Tells host state
      tag (message :: second) :=
  tells_bind_of_ok (tells_lift (Script.tells_emit_write level message))
    (result_lift ..) closing

theorem Silent.bind (opening : attempt.Silent)
    (closing : ∀ value, (next value).Silent) : (attempt >>= next).Silent :=
  fun host state tag => tells_bind_silent (opening host state tag) closing

end Attempt

end DelphiRtti
