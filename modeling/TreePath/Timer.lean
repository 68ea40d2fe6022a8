import TreePath.Entries

/-!
# Timers

A timer holds the moments at which named operations were started. Moments are of any type; a
duration is the difference of two of them. Starting an operation again forgets its earlier start,
and finishing it forgets the start as well, so that it cannot be finished twice.

What the clock shows is no concern of a timer: moments are handed to it. The selections time
themselves in `TreePath.Selection.Engine` with the clock of their setting, and the operations of
other components in `TreePath.Journal.Stopwatch`.
-/

namespace TreePath

/-- The moments at which operations of a component were started. -/
structure Timer (τ : Type) where
  /-- The component that the operations belong to. -/
  component : String
  /-- The operations that were started and not finished, in order of their first start. -/
  starts : Entries τ

namespace Timer

variable {τ : Type}

/-- A timer for a component, with nothing started. -/
def new (component : String) : Timer τ :=
  ⟨component, []⟩

/-- The moment at which an operation was started, unless it was finished. -/
def started? (t : Timer τ) (name : String) : Option τ :=
  t.starts.get? name

/-- Starts an operation. -/
def start (t : Timer τ) (name : String) (now : τ) : Timer τ :=
  { t with starts := t.starts.put name now }

/-- Forgets an operation. -/
def forget (t : Timer τ) (name : String) : Timer τ :=
  { t with starts := t.starts.drop name }

/-- The duration of an operation that is finished now, and the timer without it; nothing if the
operation was not started. -/
def finish? [Sub τ] (t : Timer τ) (name : String) (now : τ) : Option (τ × Timer τ) :=
  (t.started? name).map fun start ↦ (now - start, t.forget name)

/-- What is reported about an operation that took some time, given in seconds with four places. -/
def took (component name seconds : String) : String :=
  component ++ " " ++ name ++ " took " ++ seconds ++ " seconds"

/-- What is reported when an operation is finished that was not started. -/
def notStarted (name : String) : String :=
  "No start time found for " ++ name

/-- The start of an operation is its last one. -/
@[simp] theorem started?_start_self (t : Timer τ) (name : String) (now : τ) :
    (t.start name now).started? name = some now :=
  Entries.get?_put_self ..

end Timer

end TreePath
