import TreePath.Proofs.Journal.Settling

/-!
# Setups that fail

A setup fails in one of two ways. If a level is refused, nothing was done, and a later setup of the
logger finds it as it was: if that one names levels and its log file can be opened, it does all that
it is asked for. If the log file cannot be opened, the logger has its level and its handler for the
console already, and both stay. A logger that has handlers is left alone, so every later setup of it
succeeds without any effect: the logger never gets a handler for a file, even if its log file can be
opened by then (`after_failed_setup`, `not_restored_by_failed_setup`).

The two ways differ by the point at which the setup fails, and `Fails` has one case for each, with
the journal that is left. Whether a log file can be opened may change with every turn. So the later
setup is made after any turns that do not set up the logger itself, and its levels and its file need
not be those that were asked for first.
-/

namespace TreePath

namespace Journal

variable {j j' : Journal} {s : Setup} {e : SetupError}

/-- How a setup fails. -/
inductive Fails (j : Journal) (s : Setup) : Journal → Prop
  /-- No levels are named, and nothing is done. -/
  | refused (hlevels : ∀ console file, ¬ s.Names console file) : Fails j s j
  /-- The log file cannot be opened, when the logger has its handler for the console already. -/
  | halfway {console file : Level} (hlevels : s.Names console file)
    (hopens : ∀ address files', ¬ s.Opens j.files address files') (files : FileStore) :
    Fails j s (j.arranged s console file none files)

/-- Only a logger without handlers fails to be set up. -/
theorem fails_of_error (h : (arrange s).run j = .error e j') :
    (j.logger s.loggerName).handlers = [] ∧ Fails j s j' := by
  have ho := outcome_arrange j s
  rw [h] at ho
  cases ho with
  | refused hbare hlevels _ => exact ⟨hbare, .refused hlevels⟩
  | halfway hbare hlevels hopens _ files => exact ⟨hbare, .halfway hlevels hopens files⟩

/-- Turns that do not set a logger up do not keep it from being set up later. -/
theorem run_arrange_of_bare_before (hbare : (j.logger s.loggerName).handlers = [])
    {later : List Turn} (hlater : ∀ t ∈ later, t.target? ≠ some s.loggerName) {console file : Level}
    {address : Option (List String)} {files : FileStore} (hlevels : s.Names console file)
    (hopens : s.Opens (j.afterAll later).files address files) :
    (arrange s).run (j.afterAll later) =
      .ok () ((j.afterAll later).arranged s console file address files) := by
  refine run_arrange_of_opens ?_ hlevels hopens
  rw [logger_afterAll later fun t ht htarget ↦ absurd htarget (hlater t ht)]
  exact hbare

/-- A logger that a setup made stays so, be the handler for the console its only one, and every
later setup of it succeeds without any effect. -/
theorem final_of_arranged (j : Journal) (s : Setup) (console file : Level)
    (address : Option (List String)) (files : FileStore) (later : List Turn) :
    (((j.arranged s console file address files).afterAll later).logger s.loggerName =
        s.result console file address) ∧
      ∀ s' : Setup, s'.loggerName = s.loggerName →
        (arrange s').run ((j.arranged s console file address files).afterAll later) =
          .ok () ((j.arranged s console file address files).afterAll later) := by
  have hself : (j.arranged s console file address files).logger s.loggerName =
      s.result console file address := logger_arranged_self
  have hfull : ((j.arranged s console file address files).logger s.loggerName).handlers ≠ [] := by
    rw [hself]
    exact List.cons_ne_nil _ _
  obtain ⟨hlogger, hagain⟩ := final_of_handlers hfull later
  exact ⟨hlogger.trans hself, hagain⟩

/-- A log file that cannot be opened is one that was named. -/
theorem logFile_truthy_of_not_opens {files : FileStore}
    (h : ∀ address files', ¬ s.Opens files address files') : s.logFile.truthy = true := by
  cases hnamed : s.logFile.truthy with
  | true => rfl
  | false => exact absurd (.unnamed hnamed) (h none files)

/-- **What a failed setup leaves.** Other loggers are as they were. If it names no levels,
everything is, and after any turns that do not set the logger up, a setup of it that names levels
and opens its log file does all that it is asked for. If it names levels, its log file could not be
opened; then the logger has changed, to one with a handler for the console only, and stays so for
good: after any turns, every setup of it succeeds without any effect. -/
theorem after_failed_setup (h : (arrange s).run j = .error e j') :
    (∀ name, name ≠ s.loggerName → j'.logger name = j.logger name) ∧
      (j'.logger s.loggerName = j.logger s.loggerName ↔ ∀ console file, ¬ s.Names console file) ∧
      ((∀ console file, ¬ s.Names console file) → j' = j ∧
        ∀ later : List Turn, (∀ t ∈ later, t.target? ≠ some s.loggerName) →
          ∀ (s' : Setup) (console file : Level) (address : Option (List String))
            (files : FileStore), s'.loggerName = s.loggerName → s'.Names console file →
            s'.Opens (j'.afterAll later).files address files →
              (arrange s').run (j'.afterAll later) =
                .ok () ((j'.afterAll later).arranged s' console file address files)) ∧
      ∀ console file, s.Names console file → s.logFile.truthy = true ∧
        (∀ address files, ¬ s.Opens j.files address files) ∧
        ∀ later : List Turn,
          (j'.afterAll later).logger s.loggerName = s.result console file none ∧
          ∀ s' : Setup, s'.loggerName = s.loggerName →
            (arrange s').run (j'.afterAll later) = .ok () (j'.afterAll later) := by
  obtain ⟨hbare, hfails⟩ := fails_of_error h
  cases hfails with
  | refused hlevels =>
    refine ⟨fun _ _ ↦ rfl, ⟨fun _ ↦ hlevels, fun _ ↦ rfl⟩, fun _ ↦ ⟨rfl, ?_⟩,
      fun console file hnames ↦ absurd hnames (hlevels console file)⟩
    intro later hlater s' console file address files hname hnames hopens
    rw [← hname] at hbare hlater
    exact run_arrange_of_bare_before hbare hlater hnames hopens
  | @halfway console file hlevels hopens files =>
    have hnone : ¬ ∀ console file, ¬ s.Names console file := fun h ↦ h console file hlevels
    have hfinal := final_of_arranged j s console file none files
    refine ⟨fun name hname ↦ logger_arranged_of_ne hname,
      ⟨fun hsame ↦ ?_, fun h ↦ absurd h hnone⟩, fun h ↦ absurd h hnone,
      fun console' file' hlevels' ↦ ⟨logFile_truthy_of_not_opens hopens, hopens, ?_⟩⟩
    · have hhandlers := congrArg Logger.handlers (hsame.symm.trans (hfinal []).1)
      rw [hbare] at hhandlers
      cases hhandlers
    · obtain ⟨rfl, rfl⟩ := hlevels.unique hlevels'
      exact hfinal

/-- Files among which the name of a directory is taken by a file. -/
def blockedFiles : FileStore := FileStore.empty.putAt ["f"] (.file .empty)

/-- A setup of a component with a log file at a path. -/
def setupTo (path : String) : Setup :=
  { Setup.standard with component := .string "c", logFile := .string path }

/-- Where the directory of the log file cannot be made, the setup fails and leaves the component
with a handler for the console. -/
theorem after_failed_setup_blocked :
    ∃ e j', (arrange (setupTo "f/app.log")).run (initial blockedFiles) = .error e j' ∧
      j'.logger "path_engine.c" = ⟨some .debug, [.console .info (.forConsole (.bool true))]⟩ ∧
      ∀ s' : Setup, s'.loggerName = "path_engine.c" → (arrange s').run j' = .ok () j' := by
  have hnames : (setupTo "f/app.log").Names .info .debug := ⟨rfl, rfl⟩
  obtain ⟨e, j', hrun⟩ : ∃ e j', (arrange (setupTo "f/app.log")).run (initial blockedFiles) =
      .error e j' := ⟨_, _, rfl⟩
  obtain ⟨-, -, -, hstuck⟩ := after_failed_setup hrun
  obtain ⟨-, -, hlater⟩ := hstuck .info .debug hnames
  obtain ⟨hlogger, hagain⟩ := hlater []
  exact ⟨e, j', hrun, hlogger, hagain⟩

/-- A setup that fails does not leave the logger as it was. The next one, whose log file can be
opened, does not give it a handler for the file. -/
theorem not_restored_by_failed_setup :
    ∃ e j', (arrange (setupTo "f/app.log")).run (initial blockedFiles) = .error e j' ∧
      j'.logger "path_engine.c" ≠ (initial blockedFiles).logger "path_engine.c" ∧
      (∃ files, (setupTo "ok.log").Opens j'.files (some ["ok.log"]) files) ∧
      (arrange (setupTo "ok.log")).run j' = .ok () j' ∧
      (j'.logger "path_engine.c").handlers = [.console .info (.forConsole (.bool true))] := by
  refine ⟨_, _, rfl, fun hsame ↦ ?_, ⟨_, .named rfl rfl rfl⟩, rfl, rfl⟩
  have hlevel := congrArg Logger.level hsame
  cases hlevel

end Journal

end TreePath
