import TreePath.Proofs.Journal.Arranging

/-!
# Loggers are set up once

A logger that has handlers is left alone by every setup. So what the first setup of a logger does is
what every later record meets: no turn after it changes the handlers or the level, be it a setup of
the same logger, one of another logger, or a record (`logger_afterAll`).

The logger of the whole library is no exception to that, and it has a handler from the start, the
one that does nothing. So it is never set up: no setup without a component, and no setup from a
configuration, has any effect (`arranged_first`, `arrange_ofConfig`, `not_arranged`).

What a record comes to is decided in two places. Its level is compared with that of the logger that
it is given to, or of the nearest one above that has a level, and then each handler of these loggers
compares it with its own. After the first setup of a component both are known, since the setup gives
the logger a level that is no higher than those of its handlers. So which handlers write a record is
read off the setup alone (`give_eq_of_writing`), and the theorem says it for every turn that comes
after.
-/

namespace TreePath

namespace Journal

variable {j : Journal} {s : Setup} {console file : Level} {address : Option (List String)}
  {files : FileStore}

/-! ### Runs -/

/-- What happens to a journal. -/
inductive Turn where
  /-- A logger is set up. -/
  | setup (s : Setup)
  /-- A record is given to its logger. -/
  | report (o : Occasion) (r : Record)

/-- The name of the logger that a turn sets up. -/
def Turn.target? : Turn → Option String
  | setup s => some s.loggerName
  | report .. => none

/-- The journal that a turn leaves, whether it fails or not. -/
def after (j : Journal) : Turn → Journal
  | .setup s =>
    match (arrange s).run j with
    | .ok _ j' => j'
    | .error _ j' => j'
  | .report o r => j.give o r

/-- The journal that several turns leave. -/
def afterAll (j : Journal) (ts : List Turn) : Journal :=
  ts.foldl after j

/-- A handler that writes a record changes no logger. -/
theorem loggers_deliver (o : Occasion) (r : Record) (j : Journal) (h : Handler) :
    (deliver o r j h).loggers = j.loggers := by
  rw [deliver.eq_def]
  split
  · rfl
  · cases h <;> rfl

/-- Nor do several. -/
theorem loggers_foldl_deliver (o : Occasion) (r : Record) (hs : List Handler) (j : Journal) :
    (hs.foldl (deliver o r) j).loggers = j.loggers := by
  induction hs generalizing j with
  | nil => rfl
  | cons h hs ih => rw [List.foldl_cons, ih, loggers_deliver]

/-- So a record that is given changes no logger. -/
theorem loggers_give (o : Occasion) (j : Journal) (r : Record) :
    (j.give o r).loggers = j.loggers := by
  rw [give]
  split
  · rfl
  · exact loggers_foldl_deliver o r _ _

/-- A turn changes a logger only if it sets it up and finds it without handlers. -/
theorem logger_after {name : String} (t : Turn)
    (h : t.target? = some name → (j.logger name).handlers ≠ []) :
    (j.after t).logger name = j.logger name := by
  cases t with
  | report o r => rw [after, logger, logger, loggers_give]
  | setup s =>
    have hne : (j.logger s.loggerName).handlers = [] → name ≠ s.loggerName := by
      rintro hbare rfl
      exact h rfl hbare
    have ho := outcome_arrange j s
    rw [after]
    generalize (arrange s).run j = o at ho ⊢
    cases ho with
    | settled => rfl
    | refused => rfl
    | complete hbare => exact logger_arranged_of_ne (hne hbare)
    | halfway hbare => exact logger_arranged_of_ne (hne hbare)

/-- A run leaves a logger as it is if that has handlers already, or is set up by no turn. -/
theorem logger_afterAll {name : String} (ts : List Turn)
    (h : ∀ t ∈ ts, t.target? = some name → (j.logger name).handlers ≠ []) :
    (j.afterAll ts).logger name = j.logger name := by
  induction ts generalizing j with
  | nil => rfl
  | cons t ts ih =>
    have hstep : (j.after t).logger name = j.logger name :=
      logger_after t (h t List.mem_cons_self)
    have hrest : ∀ t' ∈ ts, t'.target? = some name → ((j.after t).logger name).handlers ≠ [] :=
      fun t' ht' ↦ hstep ▸ h t' (List.mem_cons_of_mem t ht')
    exact (ih hrest).trans hstep

/-- Setting up from a configuration has no effect, whatever has happened before. -/
theorem arrange_ofConfig (files : FileStore) (ts : List Turn) (c : Config) (e : Environment)
    (today : Date) :
    (arrange (.ofConfig c e today)).run ((initial files).afterAll ts) =
      .ok () ((initial files).afterAll ts) := by
  have hroot : (Setup.ofConfig c e today).loggerName = Record.root :=
    (Setup.loggerName_eq_root_iff _).2 rfl
  have hsilent : ((initial files).logger Record.root).handlers ≠ [] := by simp [logger_initial]
  refine run_arrange_of_settled ?_
  rw [hroot, logger_afterAll ts fun _ _ _ ↦ hsilent]
  exact hsilent

/-! ### Delivery -/

/-- The handlers of a logger that write a record which comes to it. -/
def writing (j : Journal) (name : String) (r : Record) : List Handler :=
  if r.level.rank < (j.effectiveLevel r.source).rank then []
  else (j.logger name).handlers.filter fun h ↦ h.level ≤ r.level

/-- The journal with a record entered, unless it is dropped. -/
def entered (j : Journal) (r : Record) : Journal :=
  if r.level.rank < (j.effectiveLevel r.source).rank then j
  else { j with records := j.records.push r }

/-- To give a record to its logger is to enter it, and to have it written by those handlers of the
logger and of the loggers above it that write it. -/
theorem give_eq (o : Occasion) (j : Journal) (r : Record) :
    j.give o r =
      ((lineage r.source).flatMap fun name ↦ j.writing name r).foldl (deliver o r)
        (j.entered r) := by
  rw [give, entered]
  by_cases hdropped : r.level.rank < (j.effectiveLevel r.source).rank
  · have hnone : (lineage r.source).flatMap (fun name ↦ j.writing name r) = [] :=
      List.flatMap_eq_nil_iff.2 fun name _ ↦ if_pos hdropped
    rw [if_pos hdropped, if_pos hdropped, hnone]
    rfl
  · simp only [writing, hdropped, if_false]
    rw [← List.filter_flatMap, List.foldl_filter]
    refine congrFun (congrFun (congrArg List.foldl ?_) _) _
    funext j' h
    -- a handler that does not let the record through leaves the journal as it is
    by_cases hlet : h.level ≤ r.level
    · rw [if_pos (decide_eq_true hlet)]
    · rw [if_neg (by simpa using hlet), deliver.eq_def, if_pos (Int.not_le.1 hlet)]

/-- The first logger that a record comes to is its own. -/
theorem exists_lineage_eq (name : String) : ∃ above, lineage name = name :: above := by
  obtain ⟨part, parts, hparts⟩ := List.exists_cons_of_ne_nil (Text.split_ne_nil '.' name)
  have hname : ".".intercalate (Text.split '.' name) = name := Text.intercalate_split '.' name
  refine ⟨(List.range parts.length).map fun k ↦
    ".".intercalate ((part :: parts).take (parts.length - k)), ?_⟩
  rw [hparts] at hname
  rw [lineage, hparts, List.length_cons, List.range_succ_eq_map, List.map_cons, List.map_map]
  refine congrArg₂ List.cons ?_ ?_
  · rw [Nat.sub_zero, ← List.length_cons (a := part), List.take_length]
    exact hname
  · simp [Function.comp_def, Nat.succ_sub_succ]

/-- A record is entered and written by the handlers of its own logger, then by those of the loggers
above it. -/
theorem give_eq_of_writing {r : Record} {hs : List Handler} (h : j.writing r.source r = hs)
    (o : Occasion) :
    j.give o r =
      ((lineage r.source).tail.flatMap fun name ↦ j.writing name r).foldl (deliver o r)
        (hs.foldl (deliver o r) (j.entered r)) := by
  obtain ⟨above, habove⟩ := exists_lineage_eq r.source
  rw [give_eq, habove, List.flatMap_cons, List.foldl_append, h, List.tail_cons]

/-- A logger with a level of its own does not ask the loggers above it. -/
theorem effectiveLevel_of_level {name : String} {l : Level} (h : (j.logger name).level = some l) :
    j.effectiveLevel name = l := by
  obtain ⟨above, habove⟩ := exists_lineage_eq name
  rw [effectiveLevel, habove, List.findSome?_cons, h]
  rfl

/-- What is dropped for the level of a logger that was set up, its handlers would drop too. -/
theorem writing_of_result {r : Record} {files' : FileStore} (hopens : s.Opens files address files')
    (h : j.logger r.source = s.result console file address) :
    j.writing r.source r =
      (s.handlers console file address).filter fun h ↦ h.level ≤ r.level := by
  have hlevel : j.effectiveLevel r.source = s.ownLevel console file :=
    effectiveLevel_of_level (by rw [h]; rfl)
  rw [writing, hlevel, h]
  split
  · next hlow =>
    refine (List.filter_eq_nil_iff.2 fun h hmem hlet ↦ ?_).symm
    have hown := hopens.ownLevel_le hmem
    have hlet : h.level.rank ≤ r.level.rank := of_decide_eq_true hlet
    omega
  · rfl

/-! ### The first setup and the later ones -/

/-- Nothing changes a logger that has handlers, and to set it up again has no effect at all. -/
theorem final_of_handlers {name : String} (h : (j.logger name).handlers ≠ []) (later : List Turn) :
    (j.afterAll later).logger name = j.logger name ∧
      ∀ s : Setup, s.loggerName = name →
        (arrange s).run (j.afterAll later) = .ok () (j.afterAll later) := by
  have hlater : (j.afterAll later).logger name = j.logger name :=
    logger_afterAll later fun _ _ _ ↦ h
  refine ⟨hlater, fun s hs ↦ run_arrange_of_settled ?_⟩
  rw [hs, hlater]
  exact h

/-- **Loggers are set up once.** The first setup of a logger, after any turns that set up other
loggers, succeeds if it names levels and its log file, if any, can be opened. If it names a
component, the logger has one handler for the console and one for the log file, if any, from then
on, and a record of its own is written by each of them exactly if its level is not below the one of
the handler, before the loggers above it get it. If it names none, the logger has the handler that
does nothing and no level, before and after. In either case no later turn changes the handlers or
the level of the logger, and no later setup of it has any effect. -/
theorem arranged_first (files : FileStore) (before : List Turn) {files' : FileStore}
    (hfirst : ∀ t ∈ before, t.target? ≠ some s.loggerName) (hlevels : s.Names console file)
    (hopens : s.Opens ((initial files).afterAll before).files address files') :
    ∃ j, (arrange s).run ((initial files).afterAll before) = .ok () j ∧ ∀ later,
      (j.afterAll later).logger s.loggerName =
          (if s.component.truthy then s.result console file address else ⟨none, [.silent]⟩) ∧
        (∀ s' : Setup, s'.loggerName = s.loggerName →
          (arrange s').run (j.afterAll later) = .ok () (j.afterAll later)) ∧
        (s.component.truthy = true → ∀ r, r.source = s.loggerName →
          (j.afterAll later).writing s.loggerName r =
              ((s.handlers console file address).filter fun h ↦ h.level ≤ r.level) ∧
            ∀ o, (j.afterAll later).give o r =
              ((lineage s.loggerName).tail.flatMap fun name ↦
                (j.afterAll later).writing name r).foldl (deliver o r)
                (((s.handlers console file address).filter fun h ↦ h.level ≤ r.level).foldl
                  (deliver o r) ((j.afterAll later).entered r))) := by
  have hbefore : ((initial files).afterAll before).logger s.loggerName =
      (initial files).logger s.loggerName :=
    logger_afterAll before fun t ht htarget ↦ absurd htarget (hfirst t ht)
  rw [logger_initial] at hbefore
  cases ht : s.component.truthy with
  | false =>
    rw [if_pos (s.loggerName_eq_root_iff.2 ht)] at hbefore
    have hfull : (((initial files).afterAll before).logger s.loggerName).handlers ≠ [] := by
      simp [hbefore]
    refine ⟨_, run_arrange_of_settled hfull, fun later ↦ ?_⟩
    obtain ⟨hlogger, hagain⟩ := final_of_handlers hfull later
    exact ⟨hlogger.trans hbefore, hagain, nofun⟩
  | true =>
    have hne : s.loggerName ≠ Record.root := fun h ↦ by
      simp [s.loggerName_eq_root_iff.1 h] at ht
    rw [if_neg hne] at hbefore
    have hbare : (((initial files).afterAll before).logger s.loggerName).handlers = [] := by
      rw [hbefore]
    refine ⟨_, run_arrange_of_opens hbare hlevels hopens, fun later ↦ ?_⟩
    have hfull : ((((initial files).afterAll before).arranged s console file address files').logger
        s.loggerName).handlers ≠ [] := by
      simp [Setup.result, Setup.handlers]
    obtain ⟨hlogger, hagain⟩ := final_of_handlers hfull later
    rw [logger_arranged_self] at hlogger
    refine ⟨hlogger, hagain, fun _ r hr ↦ ?_⟩
    rw [← hr] at hlogger ⊢
    have hwriting := writing_of_result hopens hlogger
    exact ⟨hwriting, give_eq_of_writing hwriting⟩

/-- A setup of a component that asks for a log file. -/
def sampleSetup : Setup :=
  { Setup.standard with
    component := .string "engine", logFile := .string "engine.log",
    consoleLevel := .string "warning" }

/-- After a setup of the whole library, which has no effect, a component gets its two handlers, for
good. -/
theorem arranged_first_sample :
    ∃ j, (arrange sampleSetup).run ((initial .empty).afterAll [.setup .standard]) = .ok () j ∧
      ∀ later, (j.afterAll later).logger "path_engine.engine" =
        ⟨some .debug, [.console .warning (.forConsole (.bool true)),
          .file ["engine.log"] .debug .forFile]⟩ := by
  have hlevels : sampleSetup.Names .warning .debug := ⟨rfl, rfl⟩
  have hopens : sampleSetup.Opens ((initial .empty).afterAll [.setup .standard]).files
      (some ["engine.log"]) ⟨[(["engine.log"], .file .empty)]⟩ :=
    .named rfl rfl rfl
  obtain ⟨j, hrun, hlater⟩ :=
    arranged_first .empty [.setup .standard] (by decide +kernel) hlevels hopens
  exact ⟨j, hrun, fun later ↦ (hlater later).1⟩

/-- It is not the case that a setup gives the logger it means a handler for the console: the one of
the whole library is left without. -/
theorem not_arranged :
    ¬ ∀ (files : FileStore) (s : Setup) (console file : Level), s.Names console file →
      s.logFile.truthy = false → ∃ j, (arrange s).run (initial files) = .ok () j ∧
        .console console (.forConsole s.colored) ∈ (j.logger s.loggerName).handlers := by
  intro h
  have hlevels : Setup.standard.Names .info .debug := ⟨rfl, rfl⟩
  obtain ⟨j, hrun, hmem⟩ := h .empty .standard .info .debug hlevels rfl
  have hsilent : ((initial .empty).logger Setup.standard.loggerName).handlers = [.silent] := rfl
  rw [run_arrange_of_settled (by simp [hsilent])] at hrun
  cases hrun
  rw [hsilent] at hmem
  cases List.mem_singleton.1 hmem

end Journal

end TreePath
