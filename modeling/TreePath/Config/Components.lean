import TreePath.Config.Basic
import TreePath.Literal.OfJson
import TreePath.Markup.Builder
import TreePath.Selection.Engine

/-!
# Components as configured

The engine and the builder that a configuration asks for. A setting may hold any value; the
components refuse what names no strategy or backend as they refuse it from any other caller.

Settings are read from under keys of two parts each, and what is not set is what a component takes
for itself when nothing is asked for.
-/

namespace TreePath.Config

/-- The engine that a configuration asks for. -/
def engine (c : Config) : Except Fault Engine := do
  let strategy ← Strategy.ofLiteral
    (.ofJson (c.get "engine.strategy" (.string Strategy.recursive.name)))
  return ⟨strategy, (c.get "engine.log_timing" (.bool false)).truthy⟩

/-- The builder that a configuration asks for. -/
def builder (c : Config) : Except BuilderError Builder :=
  Builder.ofLiteral (.ofJson (c.get "parser.backend" .null))
    (c.get "parser.keep_whitespace" (.bool false)).truthy

end TreePath.Config
