import Mathlib.Logic.Basic
import TreePath.Journal.Setup

/-!
# What a setup can come to

A setup takes several steps, each of which may fail and leaves behind what the steps before it did.
Taken together it comes to one of four outcomes (`Outcome`): the logger has handlers and is left
alone, the levels are refused and nothing is done, the logger gets all that was asked for, or the
log file cannot be opened and the logger is left with its handler for the console. Which one it is
depends on the handlers of the logger, the levels (`Setup.Names`) and the log file (`Setup.Opens`).

The levels that a setup names are looked up before anything is done, and the log file is opened
last. So there is one state in between that can be left behind, and the outcome that leaves it
carries the error as well. Both the level that the logger gets and its handlers are named as
functions of the setup (`Setup.ownLevel`, `Setup.handlers`), with which the outcomes can be stated
without the computation.

The computation goes along a chain of steps on one logger. What another logger is does not change on
the way (`logger_withLogger_of_ne`), and the last change of the logger hides the earlier ones
(`withLogger_withLogger`), so that the journal at the end is the one at the beginning with one
logger replaced.
-/

namespace TreePath

/-! ### What a setup asks for -/

namespace Setup

variable {s : Setup}

/-- The levels that a setup names. -/
structure Names (s : Setup) (console file : Level) : Prop where
  /-- The level of the console. -/
  console : Level.ofLiteral .info (.ofJson s.consoleLevel) = .ok console
  /-- The level of the file, which has to be one even if there is to be no file. -/
  file : Level.ofLiteral .debug (.ofJson s.fileLevel) = .ok file

/-- The levels that a setup names are determined. -/
theorem Names.unique {console file console' file' : Level} (h : s.Names console file)
    (h' : s.Names console' file') : console = console' ∧ file = file' := by
  have hconsole := h.console.symm.trans h'.console
  have hfile := h.file.symm.trans h'.file
  exact ⟨Except.ok.inj hconsole, Except.ok.inj hfile⟩

/-- The level that a setup gives to the logger: the lowest that a handler of it lets through. -/
def ownLevel (s : Setup) (console file : Level) : Level :=
  let lower := if file.rank < console.rank then file else console
  if s.logFile.truthy then lower else console

/-- The handlers that a setup gives to the logger: one for the console, and one for the log file if
there is one, at its address. -/
def handlers (s : Setup) (console file : Level) (address : Option (List String)) : List Handler :=
  .console console (.forConsole s.colored) ::
    (address.map fun a ↦ .file a file .forFile).toList

/-- The logger that a setup makes. -/
def result (s : Setup) (console file : Level) (address : Option (List String)) : Logger :=
  ⟨some (s.ownLevel console file), s.handlers console file address⟩

/-- Makes the directories above a log file and opens it. -/
def opening (path : String) : FileStore.Storing (List String) := do
  FileStore.makeRoom path
  FileStore.openFile path false

/-- The log file of a setup, if it names one, can be opened: the address of the file, and the files
afterwards. -/
inductive Opens (s : Setup) (files : FileStore) : Option (List String) → FileStore → Prop
  /-- No log file is named. -/
  | unnamed (h : s.logFile.truthy = false) : Opens s files none files
  /-- The log file is named and opened. -/
  | named {path : String} {address : List String} {files' : FileStore}
      (h : s.logFile.truthy = true) (hpath : s.logFile = .string path)
      (hopen : (opening path).run files = .ok address files') :
      Opens s files (some address) files'

/-- So are the file that it opens and what it leaves of the store. -/
theorem Opens.unique {files files' files'' : FileStore} {address address' : Option (List String)}
    (h : s.Opens files address files') (h' : s.Opens files address' files'') :
    address = address' ∧ files' = files'' := by
  cases h with
  | unnamed hf =>
    cases h' with
    | unnamed => exact ⟨rfl, rfl⟩
    | named ht => simp [hf] at ht
  | named ht hpath hopen =>
    cases h' with
    | unnamed hf => simp [hf] at ht
    | named _ hpath' hopen' =>
      obtain rfl := Json.string.inj (hpath.symm.trans hpath')
      cases hopen.symm.trans hopen'
      exact ⟨rfl, rfl⟩

/-- No handler lets through what is below the level of the logger. -/
theorem Opens.ownLevel_le {files files' : FileStore} {address : Option (List String)}
    (hopens : s.Opens files address files') {console file : Level} {h : Handler}
    (hmem : h ∈ s.handlers console file address) :
    (s.ownLevel console file).rank ≤ h.level.rank := by
  cases hopens with
  | unnamed hf =>
    obtain rfl : h = .console console (.forConsole s.colored) := by simpa [handlers] using hmem
    simp [ownLevel, hf, Handler.level]
  | named ht _ _ =>
    rw [ownLevel, if_pos ht]
    have hcases : h.level = console ∨ h.level = file := by
      rcases List.mem_cons.1 hmem with rfl | hmem
      · exact .inl rfl
      · obtain rfl := List.mem_singleton.1 hmem
        exact .inr rfl
    split <;> rcases hcases with hl | hl <;> rw [hl] <;> omega

/-- Every component has a logger of its own, apart from the one of the whole library. -/
theorem loggerName_eq_root_iff (s : Setup) :
    s.loggerName = Record.root ↔ s.component.truthy = false := by
  rw [loggerName]
  cases ht : s.component.truthy with
  | false => simp
  | true =>
    rw [if_pos rfl, String.append_assoc]
    refine ⟨fun h ↦ ?_, nofun⟩
    have hlength := congrArg String.length h
    simp only [String.length_append] at hlength
    have hdot : ".".length = 1 := rfl
    omega

end Setup

namespace Journal

variable {j : Journal} {s : Setup} {console file : Level} {address : Option (List String)}
  {files : FileStore}

/-! ### The loggers of a changed journal -/

@[simp] theorem logger_withLogger_self (j : Journal) (name : String) (l : Logger) :
    (j.withLogger name l).logger name = l := by
  simp [withLogger, logger]

/-- A logger that is set changes no other. -/
theorem logger_withLogger_of_ne (j : Journal) {name other : String} (l : Logger)
    (h : other ≠ name) : (j.withLogger name l).logger other = j.logger other := by
  simp [withLogger, logger, Entries.get?_put_of_ne _ l h]

@[simp] theorem withLogger_withLogger (j : Journal) (name : String) (l l' : Logger) :
    (j.withLogger name l).withLogger name l' = j.withLogger name l' := by
  simp [withLogger]

/-- At the start only the logger of the whole library has a handler. -/
theorem logger_initial (files : FileStore) (name : String) :
    (initial files).logger name = if name = Record.root then ⟨none, [.silent]⟩ else ⟨none, []⟩ := by
  by_cases h : name = Record.root
  · rw [if_pos h, logger, initial, Entries.get?_cons, if_pos h.symm]
    rfl
  · rw [if_neg h, logger, initial, Entries.get?_cons, if_neg (Ne.symm h)]
    rfl

/-- The journal after a setup that did all it was asked for. -/
def arranged (j : Journal) (s : Setup) (console file : Level) (address : Option (List String))
    (files : FileStore) : Journal :=
  { j.withLogger s.loggerName (s.result console file address) with files }

@[simp] theorem logger_arranged_self :
    (j.arranged s console file address files).logger s.loggerName =
      s.result console file address :=
  logger_withLogger_self j s.loggerName (s.result console file address)

theorem logger_arranged_of_ne {name : String} (h : name ≠ s.loggerName) :
    (j.arranged s console file address files).logger name = j.logger name :=
  logger_withLogger_of_ne j (s.result console file address) h

/-! ### What a setup can come to -/

/-- What a setup can come to. -/
inductive Outcome (j : Journal) (s : Setup) : EStateM.Result SetupError Journal Unit → Prop
  /-- The logger has handlers and is left alone. -/
  | settled (h : (j.logger s.loggerName).handlers ≠ []) : Outcome j s (.ok () j)
  /-- No levels are named, and nothing is done. -/
  | refused (h : (j.logger s.loggerName).handlers = [])
      (hlevels : ∀ console file, ¬ s.Names console file) (e : LiteralError) :
      Outcome j s (.error (.level e) j)
  /-- The logger gets all that was asked for. -/
  | complete {console file : Level} {address : Option (List String)} {files : FileStore}
      (h : (j.logger s.loggerName).handlers = []) (hlevels : s.Names console file)
      (hopens : s.Opens j.files address files) :
      Outcome j s (.ok () (j.arranged s console file address files))
  /-- The log file cannot be opened, when the logger has its handler for the console already. -/
  | halfway {console file : Level} (h : (j.logger s.loggerName).handlers = [])
      (hlevels : s.Names console file) (hopens : ∀ address files', ¬ s.Opens j.files address files')
      (e : SetupError) (files : FileStore) :
      Outcome j s (.error e (j.arranged s console file none files))

/-- A level that is no level is what goes wrong; the journal stays as it is. -/
theorem run_chosenLevel (otherwise : Level) (v : Json) (j : Journal) :
    (chosenLevel otherwise v).run j =
      match Level.ofLiteral otherwise (.ofJson v) with
      | .ok l => .ok l j
      | .error e => .error (.level e) j := by
  rw [chosenLevel]
  cases Level.ofLiteral otherwise (.ofJson v) <;> rfl

/-- What is done with the files changes nothing else in a journal. -/
theorem run_withFiles {α : Type} (w : FileStore.Storing α) (j : Journal) :
    (withFiles w).run j =
      match w.run j.files with
      | .ok a files => .ok a { j with files }
      | .error e files => .error (.file e) { j with files } :=
  rfl

/-- The part of a setup that comes before the log file. -/
def arrangeConsole (s : Setup) (console file : Level) : Arranging Unit := do
  assignLevel s.loggerName (s.ownLevel console file)
  addHandler s.loggerName (.console console (.forConsole s.colored))

/-- A bare logger gets its level and the handler for the console. -/
theorem run_arrangeConsole (h : (j.logger s.loggerName).handlers = []) (console file : Level) :
    (arrangeConsole s console file).run j = .ok () (j.arranged s console file none j.files) := by
  let level := some (s.ownLevel console file)
  have hrun : (arrangeConsole s console file).run j = .ok ()
      ((j.withLogger s.loggerName { j.logger s.loggerName with level }).withLogger s.loggerName
        ⟨level, (j.logger s.loggerName).handlers ++
          [.console console (.forConsole s.colored)]⟩) := by
    simp [arrangeConsole, assignLevel, addHandler, level]
  rw [hrun, withLogger_withLogger, h]
  rfl

/-- A logger with a handler for the console gets one for its file after it. -/
theorem run_addHandler_arranged (j : Journal) (s : Setup) (console file : Level)
    (address : List String) (files files' : FileStore) :
    (addHandler s.loggerName (.file address file .forFile)).run
        { j.arranged s console file none files with files := files' } =
      .ok () (j.arranged s console file (some address) files') := by
  simp [addHandler, arranged, withLogger, logger, Setup.result, Setup.handlers]

/-- The log file is opened and gets a handler, or there is no path that can be opened. -/
theorem addFile_cases (name : String) (v : Json) (l : Level) (j : Journal) :
    (∃ path address files, v = .string path ∧
      (Setup.opening path).run j.files = .ok address files ∧
      (addFile name v l).run j =
        (addHandler name (.file address l .forFile)).run { j with files }) ∨
    ∃ e files, (addFile name v l).run j = .error e { j with files } ∧
      ∀ path address files', v = .string path →
        (Setup.opening path).run j.files ≠ .ok address files' := by
  cases v with
  | string path =>
    have hadd : addFile name (.string path) l =
        withFiles (Setup.opening path) >>= fun address ↦
          addHandler name (.file address l .forFile) := rfl
    rw [hadd, EStateM.run_bind, run_withFiles]
    cases hopen : (Setup.opening path).run j.files with
    | ok address files => exact .inl ⟨path, address, files, rfl, hopen, rfl⟩
    | error e files =>
      refine .inr ⟨.file e, files, rfl, fun path' address files' hpath hok ↦ ?_⟩
      cases hpath
      rw [hopen] at hok
      cases hok
  | _ => exact .inr ⟨_, _, rfl, nofun⟩

/-- Once the levels are known, a setup does all that it was asked for, or stops at the log file. -/
theorem outcome_of_names (h : (j.logger s.loggerName).handlers = [])
    (hlevels : s.Names console file) :
    Outcome j s ((do arrangeConsole s console file
                     if s.logFile.truthy then
                       addFile s.loggerName s.logFile file : Arranging Unit).run j) := by
  simp only [EStateM.run_bind, run_arrangeConsole h]
  cases ht : s.logFile.truthy with
  | false => exact .complete h hlevels (.unnamed ht)
  | true =>
    rw [if_pos rfl]
    rcases addFile_cases s.loggerName s.logFile file (j.arranged s console file none j.files)
      with ⟨path, address, files, hpath, hopen, hrun⟩ | ⟨e, files, hrun, hfail⟩
    · rw [hrun, run_addHandler_arranged]
      exact .complete h hlevels (.named ht hpath hopen)
    · rw [hrun]
      refine .halfway h hlevels (fun address files' hopens ↦ ?_) e files
      cases hopens with
      | unnamed hf => simp [ht] at hf
      | named _ hpath hopen => exact hfail _ _ _ hpath hopen

/-- A bare logger is set up from the levels on. -/
theorem run_arrange_of_bare (h : (j.logger s.loggerName).handlers = []) :
    (arrange s).run j =
      (do let console ← chosenLevel .info s.consoleLevel
          let file ← chosenLevel .debug s.fileLevel
          arrangeConsole s console file
          if s.logFile.truthy then addFile s.loggerName s.logFile file : Arranging Unit).run j := by
  simp only [arrange, arrangeConsole, bind_assoc, EStateM.run_bind, EStateM.run_get, h,
    List.isEmpty_nil, if_true]
  rfl

/-- Every setup comes to one of the outcomes. -/
theorem outcome_arrange (j : Journal) (s : Setup) : Outcome j s ((arrange s).run j) := by
  by_cases h : (j.logger s.loggerName).handlers = []
  · rw [run_arrange_of_bare h, EStateM.run_bind, run_chosenLevel]
    cases hconsole : Level.ofLiteral .info (.ofJson s.consoleLevel) with
    | error e =>
      refine .refused h (fun console file hlevels ↦ ?_) e
      rw [hlevels.console] at hconsole
      cases hconsole
    | ok console =>
      simp only
      rw [EStateM.run_bind, run_chosenLevel]
      cases hfile : Level.ofLiteral .debug (.ofJson s.fileLevel) with
      | error e =>
        refine .refused h (fun console file hlevels ↦ ?_) e
        rw [hlevels.file] at hfile
        cases hfile
      | ok file => exact outcome_of_names h ⟨hconsole, hfile⟩
  · have hrun : (arrange s).run j = .ok () j := by
      have hfull : (j.logger s.loggerName).handlers.isEmpty = false := by simpa using h
      simp only [arrange, EStateM.run_bind, EStateM.run_get, hfull]
      rfl
    rw [hrun]
    exact .settled h

/-- A logger with handlers is left as it is. -/
theorem run_arrange_of_settled (h : (j.logger s.loggerName).handlers ≠ []) :
    (arrange s).run j = .ok () j := by
  have ho := outcome_arrange j s
  generalize (arrange s).run j = o at ho ⊢
  cases ho with
  | settled => rfl
  | refused hbare => exact absurd hbare h
  | complete hbare => exact absurd hbare h
  | halfway hbare => exact absurd hbare h

/-- A bare logger gets all it was asked for, if the levels are named and the file can be opened. -/
theorem run_arrange_of_opens (h : (j.logger s.loggerName).handlers = [])
    (hlevels : s.Names console file) (hopens : s.Opens j.files address files) :
    (arrange s).run j = .ok () (j.arranged s console file address files) := by
  have ho := outcome_arrange j s
  generalize (arrange s).run j = o at ho ⊢
  cases ho with
  | settled hfull => exact absurd h hfull
  | refused _ hnone => exact absurd hlevels (hnone console file)
  | complete _ hlevels' hopens' =>
    obtain ⟨rfl, rfl⟩ := hlevels.unique hlevels'
    obtain ⟨rfl, rfl⟩ := hopens.unique hopens'
    rfl
  | halfway _ _ hnone => exact absurd hopens (hnone address files)

end Journal

end TreePath
