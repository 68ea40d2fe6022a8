import TreePath.Journal.Record

/-!
# Notices

What is reported while steps and engines are being made. Making them is all that reports these two
things, and it reports nothing else.

They are apart from the events of selections (`TreePath.Selection.World`), since steps and engines
are also made where nothing is selected; inside of a selection they become events.
-/

namespace TreePath

/-- A report made while steps and engines are made. -/
inductive Notice where
  /-- A conjunction without members was made. -/
  | emptyConjunction
  /-- An engine with this strategy was made. -/
  | engineReady (strategy : String)
deriving DecidableEq, Repr

/-- The record of a notice. -/
def Notice.record : Notice → Record
  | emptyConjunction =>
    .plain "path_engine.dsl.steps" .warning "Empty Conjunction matches every element"
  | engineReady strategy =>
    .plain "path_engine.dsl.selector_engine" .debug
      ("SelectorEngine initialized (strategy: " ++ strategy ++ ")")

end TreePath
