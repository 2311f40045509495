import DelphiRtti.Proofs.Binary.Loading
import DelphiRtti.Shell.Session

/-!
# What lines do to a session

A session has a path and a project together or has neither, whatever lines are
typed and whatever files and executables are read as.  A binary that cannot be
opened changes nothing, and one that can be takes the place of the path, the
project and the cursor at once.
-/

namespace DelphiRtti

open Text

namespace Shell

/-- The ways in which opening the binary at a path can fail. -/
inductive OpenFails (files : FileSource) (reader : Executable.Reader)
    (path : String) : LoadError → Prop where
  | unreadable {cause : FileError} (refused : files path = .error cause) :
      OpenFails files reader path (.unreadable path cause)
  | rejected {data : Array UInt8} {failure : LoadError}
      (read : files path = .ok data)
      (rejects : Binary.Rejects reader data failure) :
      OpenFails files reader path failure
  | overlapping {data : Array UInt8} {contents : Executable.Contents}
      {failure : LoadError}
      (read : files path = .ok data) (holds : Binary.Holds reader data contents)
      (meeting : ¬ (Binary.ofContents data path contents).SectionsApart)
      (refused :
        (Binary.ofContents data path contents).toProject.1 = .error failure) :
      OpenFails files reader path failure

/-- What the binary at a path is opened as. -/
structure Opens (files : FileSource) (reader : Executable.Reader)
    (path : String) (binary : Binary) (project : Project) : Prop where
  read : ∃ data contents, files path = .ok data
    ∧ Binary.Holds reader data contents
    ∧ binary = Binary.ofContents data path contents
  apart : binary.SectionsApart
  made : binary.toProject.1 = .ok project

variable {files : FileSource} {reader : Executable.Reader} {path : String}

theorem fails_or_opens (files : FileSource) (reader : Executable.Reader)
    (path : String) :
    (∃ failure, OpenFails files reader path failure)
      ∨ ∃ binary project, Opens files reader path binary project := by
  cases read : files path with
  | error cause => exact .inl ⟨_, .unreadable read⟩
  | ok data =>
      rcases Binary.ofBytesBy_cases reader data path
        with ⟨failure, _, rejects⟩ | ⟨contents, _, holds⟩
      · exact .inl ⟨failure, .rejected read rejects⟩
      · cases made : (Binary.ofContents data path contents).toProject.1 with
        | error failure =>
            have meeting :=
              (Binary.exists_toProject_eq_error_iff _).1 ⟨failure, made⟩
            exact .inl ⟨failure, .overlapping read holds meeting made⟩
        | ok project =>
            have apart := Binary.sectionsApart_of_toProject made
            exact .inr ⟨_, project, ⟨data, contents, read, holds, rfl⟩,
              apart, made⟩

namespace Session

variable {load : Loader} {binary : Binary} {project : Project}
  {failure : LoadError}

theorem openBinary_of_unloaded
    (unloaded : load path = .error failure) (session : Session) :
    (session.openBinary load path).1 = .error failure := by
  rw [openBinary, unloaded]

theorem openBinary_of_refused (loaded : load path = .ok binary)
    (refused : binary.toProject.1 = .error failure) (session : Session) :
    (session.openBinary load path).1 = .error failure := by
  rcases made : binary.toProject with ⟨outcome, records⟩
  rw [made] at refused
  cases refused
  simp only [openBinary, loaded, made]

theorem openBinary_of_made (loaded : load path = .ok binary)
    (done : binary.toProject.1 = .ok project) (session : Session) :
    (session.openBinary load path).1
      = .ok (binary.summary,
        ⟨some path, some project, binary.entry, session.dialect⟩) := by
  rcases made : binary.toProject with ⟨outcome, records⟩
  rw [made] at done
  cases done
  simp only [openBinary, loaded, made]

theorem openBinary_of_fails
    (fails : OpenFails files reader path failure) (session : Session) :
    (session.openBinary (files.loader reader) path).1 = .error failure := by
  cases fails with
  | unreadable refused =>
      refine openBinary_of_unloaded ?_ session
      rw [FileSource.loader, refused]
  | rejected read rejects =>
      refine openBinary_of_unloaded ?_ session
      rw [FileSource.loader, read]
      exact rejects.ofBytesBy_eq path
  | overlapping read holds _ refused =>
      refine openBinary_of_refused ?_ refused session
      rw [FileSource.loader, read]
      exact holds.ofBytesBy_eq path

theorem openBinary_of_opens (opens : Opens files reader path binary project)
    (session : Session) :
    (session.openBinary (files.loader reader) path).1
      = .ok (binary.summary,
        ⟨some path, some project, binary.entry, session.dialect⟩) := by
  obtain ⟨data, contents, read, holds, rfl⟩ := opens.read
  refine openBinary_of_made ?_ opens.made session
  rw [FileSource.loader, read]
  exact holds.ofBytesBy_eq path

theorem executeOpen_eq (load : Loader) (session : Session) (path : String) :
    ∃ output records, session.executeOpen load path
      = ⟨((session.openBinary load path).1.toOption.map Prod.snd).getD session,
        output, records, true⟩ := by
  rw [executeOpen]
  rcases session.openBinary load path with ⟨failure | ⟨summary, next⟩, records⟩
  · exact ⟨_, _, rfl⟩
  · exact ⟨_, _, rfl⟩

theorem executeOpen_of_fails
    (fails : OpenFails files reader path failure) (session : Session) :
    (session.executeOpen (files.loader reader) path).session = session := by
  obtain ⟨output, records, same⟩ :=
    executeOpen_eq (files.loader reader) session path
  rw [same, openBinary_of_fails fails]
  rfl

theorem executeOpen_of_opens (opens : Opens files reader path binary project)
    (session : Session) :
    (session.executeOpen (files.loader reader) path).session
      = ⟨some path, some project, binary.entry, session.dialect⟩ := by
  obtain ⟨output, records, same⟩ :=
    executeOpen_eq (files.loader reader) session path
  rw [same, openBinary_of_opens opens]
  rfl

/-- A command that looks at the project leaves the session as it is. -/
theorem inspect_eq_reply (session : Session) (lines : Project → List String) :
    ∃ output, session.inspect lines = session.reply output := by
  rw [inspect]
  split
  · exact ⟨_, rfl⟩
  · exact ⟨_, rfl⟩

theorem executeRebuild_eq (session : Session) (address : Option Address) :
    ∃ output records, session.executeRebuild address
      = ⟨{ session with
            cursor := address.getD session.cursor
            project := session.project.map fun project =>
              (rebuild (address.getD session.cursor) session.dialect
                Project.host project).state },
          output, records, true⟩ := by
  rw [executeRebuild]
  cases session.project with
  | none => exact ⟨_, _, rfl⟩
  | some project =>
      simp only
      split
      · exact ⟨_, _, rfl⟩
      · exact ⟨_, _, rfl⟩

/-- Only the command to quit ends a session. -/
theorem carryOut_goesOn (load : Loader) (session : Session)
    (command : Command) :
    (session.carryOut load command).goesOn = decide (command ≠ .quit) := by
  have looks (lines : Project → List String) :
      (session.inspect lines).goesOn = true := by
    obtain ⟨output, same⟩ := session.inspect_eq_reply lines
    rw [same]
    rfl
  cases command with
  | openFile path =>
      obtain ⟨output, records, same⟩ := executeOpen_eq load session path
      rw [carryOut, same]
      rfl
  | hexdump count => exact looks _
  | rebuildClass address =>
      obtain ⟨output, records, same⟩ := session.executeRebuild_eq address
      rw [carryOut, same]
      rfl
  | classes => exact looks _
  | functions scope => exact looks _
  | types => exact looks _
  | printType name => exact looks _
  | _ => rfl

end Session

namespace Turn

variable {turn : Turn} {session before after : Session} {failure : LoadError}
  {binary : Binary} {project : Project}

theorem command_of_isBlank (blank : turn.isBlank = true) :
    turn.command = .unknown "" := by
  have empty : trim turn.line = [] := List.isEmpty_iff.1 blank
  rw [command, Command.parse, empty]
  rfl

theorem take_session (turn : Turn) (session : Session) :
    (turn.take session).session
      = (session.carryOut
        (turn.files.loader turn.reader) turn.command).session := by
  rw [take]
  split
  case isTrue blank =>
      rw [command_of_isBlank blank]
      rfl
  case isFalse => rfl

theorem take_goesOn (turn : Turn) (session : Session) :
    (turn.take session).goesOn = decide (turn.command ≠ .quit) := by
  rw [take]
  split
  case isTrue blank =>
      rw [command_of_isBlank blank]
      rfl
  case isFalse => exact session.carryOut_goesOn _ turn.command

theorem take_of_fails (opening : turn.command = .openFile path)
    (fails : OpenFails turn.files turn.reader path failure)
    (session : Session) : (turn.take session).session = session := by
  rw [take_session, opening]
  exact Session.executeOpen_of_fails fails session

theorem take_of_opens (opening : turn.command = .openFile path)
    (opens : Opens turn.files turn.reader path binary project)
    (session : Session) :
    (turn.take session).session
      = ⟨some path, some project, binary.entry, session.dialect⟩ := by
  rw [take_session, opening]
  exact Session.executeOpen_of_opens opens session

/-- All that a line can do to a session. -/
inductive Moves (turn : Turn) (before : Session) : Session → Prop where
  | opened {path : String} {binary : Binary} {project : Project}
      (opening : turn.command = .openFile path)
      (opens : Opens turn.files turn.reader path binary project) :
      Moves turn before ⟨some path, some project, binary.entry, before.dialect⟩
  | sought {address : Address} (seeking : turn.command = .seek address) :
      Moves turn before { before with cursor := address }
  | rebuilt {address : Option Address}
      (rebuilding : turn.command = .rebuildClass address) :
      Moves turn before
        { before with
          cursor := address.getD before.cursor
          project := before.project.map fun project =>
            (rebuild (address.getD before.cursor) before.dialect Project.host
              project).state }
  /-- Nothing: the command only looks, or it opens no binary. -/
  | stayed : Moves turn before before

theorem take_moves (turn : Turn) (session : Session) :
    turn.Moves session (turn.take session).session := by
  have looks (lines : Project → List String) :
      turn.Moves session (session.inspect lines).session := by
    obtain ⟨output, same⟩ := session.inspect_eq_reply lines
    rw [same]
    exact .stayed
  rw [take_session]
  cases named : turn.command with
  | openFile path =>
      rcases fails_or_opens turn.files turn.reader path
        with ⟨failure, fails⟩ | ⟨binary, project, opens⟩
      · rw [Session.carryOut, Session.executeOpen_of_fails fails]
        exact .stayed
      · rw [Session.carryOut, Session.executeOpen_of_opens opens]
        exact .opened named opens
  | rebuildClass address =>
      obtain ⟨output, records, same⟩ := session.executeRebuild_eq address
      rw [Session.carryOut, same]
      exact .rebuilt named
  | seek address => exact .sought named
  | hexdump count => exact looks _
  | classes => exact looks _
  | functions scope => exact looks _
  | types => exact looks _
  | printType name => exact looks _
  | _ => exact .stayed

namespace Moves

theorem dialect (moves : turn.Moves before after) :
    after.dialect = before.dialect := by
  cases moves with
  | opened => rfl
  | sought => rfl
  | rebuilt => rfl
  | stayed => rfl

/-- The path and the project come together and stay together. -/
theorem loaded (moves : turn.Moves before after)
    (together : before.project.isSome = before.binaryPath.isSome) :
    after.project.isSome = after.binaryPath.isSome := by
  cases moves with
  | opened => rfl
  | sought => exact together
  | rebuilt => exact Option.isSome_map.trans together
  | stayed => exact together

theorem path_changed (moves : turn.Moves before after)
    (changed : after.binaryPath ≠ before.binaryPath) :
    ∃ path, turn.command = .openFile path := by
  cases moves with
  | opened opening => exact ⟨_, opening⟩
  | sought => exact absurd rfl changed
  | rebuilt => exact absurd rfl changed
  | stayed => exact absurd rfl changed

theorem project_changed (moves : turn.Moves before after)
    (changed : after.project ≠ before.project) :
    (∃ path, turn.command = .openFile path) ∨ ∃ address,
    turn.command = .rebuildClass address := by
  cases moves with
  | opened opening => exact .inl ⟨_, opening⟩
  | sought => exact absurd rfl changed
  | rebuilt rebuilding => exact .inr ⟨_, rebuilding⟩
  | stayed => exact absurd rfl changed

theorem cursor_changed (moves : turn.Moves before after)
    (changed : after.cursor ≠ before.cursor) :
    (∃ path, turn.command = .openFile path)
      ∨ (∃ address, turn.command = .seek address)
      ∨ ∃ address, turn.command = .rebuildClass (some address) := by
  cases moves with
  | opened opening => exact .inl ⟨_, opening⟩
  | sought seeking => exact .inr (.inl ⟨_, seeking⟩)
  | @rebuilt address rebuilding =>
      cases address with
      | none => exact absurd rfl changed
      | some address => exact .inr (.inr ⟨address, rebuilding⟩)
  | stayed => exact absurd rfl changed

end Moves

/-- What a line may change in a session, and when.  Opening a binary
is all or nothing. -/
structure Confined (turn : Turn) (before after : Session) : Prop where
  dialect : after.dialect = before.dialect
  failed : ∀ path failure, turn.command = .openFile path →
    OpenFails turn.files turn.reader path failure → after = before
  opened : ∀ path binary project, turn.command = .openFile path →
    Opens turn.files turn.reader path binary project →
      after = ⟨some path, some project, binary.entry, before.dialect⟩
  failedOrOpened : ∀ path, turn.command = .openFile path →
    (∃ failure, OpenFails turn.files turn.reader path failure)
      ∨ ∃ binary project, Opens turn.files turn.reader path binary project
  binaryPath : after.binaryPath ≠ before.binaryPath → ∃ path,
    turn.command = .openFile path
  project : after.project ≠ before.project →
    (∃ path, turn.command = .openFile path) ∨ ∃ address,
      turn.command = .rebuildClass address
  cursor : after.cursor ≠ before.cursor →
    (∃ path, turn.command = .openFile path)
      ∨ (∃ address, turn.command = .seek address)
      ∨ ∃ address, turn.command = .rebuildClass (some address)

theorem take_confined (turn : Turn) (session : Session) :
    turn.Confined session (turn.take session).session where
  dialect := (turn.take_moves session).dialect
  failed _ _ opening fails := take_of_fails opening fails session
  opened _ _ _ opening opens := take_of_opens opening opens session
  failedOrOpened path _ := fails_or_opens turn.files turn.reader path
  binaryPath := (turn.take_moves session).path_changed
  project := (turn.take_moves session).project_changed
  cursor := (turn.take_moves session).cursor_changed

end Turn

namespace Session

/-- The lines before the first that quits. -/
def taken (turns : List Turn) :
    List Turn := turns.takeWhile fun turn => turn.command ≠ .quit

theorem loop_session (session : Session) (turns : List Turn) :
    (session.loop turns).session
      = (taken turns).foldl
        (fun session turn => (turn.take session).session) session := by
  induction turns generalizing session with
  | nil => rfl
  | cons turn rest induction =>
      rw [loop, taken, List.takeWhile_cons]
      by_cases quits : turn.command = .quit
      · have stays : (turn.take session).session = session := by
          rw [turn.take_session, quits]
          rfl
        simp [turn.take_goesOn, quits, stays]
      · simp only [turn.take_goesOn, quits, ne_eq, not_false_eq_true,
          decide_true, if_true, List.foldl_cons]
        exact induction (turn.take session).session

theorem loop_goesOn (session : Session) (turns : List Turn) :
    (session.loop turns).goesOn = true ↔ ∀ turn ∈ turns,
    turn.command ≠ .quit := by
  induction turns generalizing session with
  | nil => simp [loop, reply]
  | cons turn rest induction =>
      rw [loop, List.forall_mem_cons]
      by_cases quits : turn.command = .quit
      · simp [turn.take_goesOn, quits]
      · simp [turn.take_goesOn, quits, induction]

/-- What every line keeps holds after any lines. -/
theorem loop_keeps (property : Session → Prop)
    {session : Session} (initially : property session)
    (kept : ∀ (turn : Turn) (before : Session), property before →
      property (turn.take before).session) (turns : List Turn) :
    property (session.loop turns).session := by
  rw [loop_session]
  generalize taken turns = lines
  induction lines generalizing session with
  | nil => exact initially
  | cons turn rest induction => exact induction (kept turn session initially)

/-- A session keeps its dialect and has a path exactly if it has a project; it
goes on up to a line that quits; and each line before that changes no more than
its command may, with opening a binary as all or nothing.  This holds whatever
files and executables are read as at each line. -/
theorem session_consistent (dialect : Dialect) (turns : List Turn) :
    let ended := (start dialect).loop turns
    ended.session.dialect = dialect
      ∧ (ended.session.project.isSome ↔ ended.session.binaryPath.isSome)
      ∧ (ended.goesOn = true ↔ ∀ turn ∈ turns, turn.command ≠ .quit)
      ∧ ended.session
        = (taken turns).foldl (fun session turn => (turn.take session).session)
          (start dialect)
      ∧ ∀ (turn : Turn) (before : Session),
        turn.Confined before (turn.take before).session := by
  refine ⟨?_, ?_, loop_goesOn _ turns, loop_session _ turns, Turn.take_confined⟩
  · apply loop_keeps (fun session => session.dialect = dialect) rfl
    intro turn before same
    exact (turn.take_moves before).dialect.trans same
  · rw [← Bool.eq_iff_iff]
    apply loop_keeps
      (fun session => session.project.isSome = session.binaryPath.isSome) rfl
    intro turn before together
    exact (turn.take_moves before).loaded together

/-- Lines where one file is there, in whose bytes an image without
sections is read. -/
def typed (lines : List String) : List Turn :=
  lines.map fun line =>
    { line := line.toList
      files := fun path => if path = "a.exe" then
        .ok #[0x4d, 0x5a, 0x90, 0x00] else .error .notFound
      reader := fun _ => some ⟨false, 0x400000, 0x1000, [], [], []⟩ }

/-- The second file is not there, so the first one stays loaded; the line after
the one that quits is not taken. -/
theorem session_consistent_typed :
    let ended := (start .standard).loop
      (typed ["o a.exe", "  ", "o b.exe", "pc 0x401020", "q", "s 1"])
    ended.goesOn = false ∧ ended.session.binaryPath = some "a.exe"
      ∧ ended.session.project.isSome = true
      ∧ ended.session.cursor = .ofNat 0x401020 := by
  obtain ⟨_, together, goesOn, _⟩ :=
    session_consistent .standard
      (typed ["o a.exe", "  ", "o b.exe", "pc 0x401020", "q", "s 1"])
  have path : ((start .standard).loop
      (typed ["o a.exe", "  ", "o b.exe", "pc 0x401020", "q",
        "s 1"])).session.binaryPath
        = some "a.exe" := by decide +kernel
  refine ⟨?_, path, together.2 (by rw [path]; rfl), by decide +kernel⟩
  rw [Bool.eq_false_iff, ne_eq, goesOn, typed, List.forall_mem_map]
  intro stays
  exact stays "q" (by simp) (by decide +kernel)

end Session

end Shell

end DelphiRtti
