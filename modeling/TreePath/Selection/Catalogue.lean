import TreePath.Decimal.Reading
import TreePath.Literal.Expression
import TreePath.Selection.Program

/-!
# A catalogue of predicates

Predicates that can be described by data: by an attribute, a name, a text or a count, by what they
raise, or by a test or a selection of their own. `Rule.program` says what each of them does when it
is called with a node.

What a rule asks of a node that lacks it — the name of a text, say — is a fault that names the
feature.

Rules are one kind of program among many: what is proved about selections holds of all programs. The
catalogue is there to run selections with predicates that are given as data, and each rule is
written with the steps in which its predicate goes about its business, since those steps can fail.
-/

namespace TreePath

/-- A predicate described by data. What it compares with may be any literal. -/
inductive Rule where
  /-- Always the same answer. -/
  | constant (truth : Bool)
  /-- The attribute is there and not empty. -/
  | attributeFilled (name : Literal)
  /-- The attribute, read as a number, is below a limit. -/
  | attributeBelow (name limit : Literal)
  /-- The name is one of these. -/
  | nameAmong (names : Literal)
  /-- The text contains this one. -/
  | textHas (text : Literal)
  /-- There are at least so many child elements. -/
  | childrenAtLeast (count : Literal)
  /-- There is a parent of this name. -/
  | parentNamed (name : Literal)
  /-- Raises a fault. -/
  | raises (e : Fault)
  /-- Raises a fault if the attribute has this value, where nothing stands for its absence. -/
  | raisesIf (name value : Literal) (e : Fault)
  /-- Tests a step. -/
  | tests (step : Expression)
  /-- Selects with a strategy of this name, if it is not empty. -/
  | selects (strategy : Literal) (path : Expression)
  /-- Selects; a failure is answered as given. -/
  | triesToSelect (strategy : Literal) (path : Expression) (otherwise : Bool)

namespace Rule

/-- Why a class of exceptions is made of more than a message, if it is, where so many things are
given. -/
def shortage? (kind : String) (given : Nat) : Option String :=
  let wanted (n : Nat) : String :=
    "function takes exactly " ++ toString n ++ " arguments (" ++ toString given ++ " given)"
  match kind with
  | "UnicodeDecodeError" | "UnicodeEncodeError" => some (wanted 5)
  | "UnicodeTranslateError" => some (wanted 4)
  | "ExceptionGroup" | "BaseExceptionGroup" =>
    some ("BaseExceptionGroup.__new__() takes exactly 2 arguments (" ++ toString given ++ " given)")
  | "PredicateFailure" =>
    some ("PredicateFailure.__init__() missing " ++
      (if given = 0 then "3 required positional arguments: 'step', 'node', and 'original'"
        else "2 required positional arguments: 'node' and 'original'"))
  | _ => none

/-- The fault of a class of exceptions with a message, or without one. Some classes ask the program
to stop; one quotes its message; one has a message of its own unless it is given another; some
cannot be made of a message. -/
def fault (kind : String) (message : Literal) : Fault :=
  let text (v : Literal) : String := match v with
    | .none => ""
    | .text s => s
    | v => v.written
  if ["KeyboardInterrupt", "SystemExit", "GeneratorExit", "BaseException"].contains kind then
    .stop kind (text message)
  else if let some text := shortage? kind (if message.same .none then 0 else 1) then
    .raised "TypeError" text
  else
    match kind, message with
    | "KeyError", .text s => .raised kind (Text.quoted s)
    | "MalformedPath", .none => .raised kind LiteralError.noSteps.message
    | _, _ => .raised kind (text message)

/-- Goes on with the value of an attribute of a node, where nothing stands for its absence, or
raises why it cannot be asked for. -/
def withAttribute (f : Forest) (i : NodeId) (name : Literal) (next : Literal → Program) : Program :=
  match (f.content i).attributes?, name.unhashable?, name with
  | none, _, _ => .raise (.lacks (f.content i).className "get_attribute")
  | some _, some typeName, _ => .raise (.literal (.unhashable typeName))
  | some attributes, none, .text s => next ((attributes.get? s).elim .none .text)
  | some _, none, _ => next .none

/-- Answers by the order of a number and a limit, or raises that they have none. -/
def byOrder (operator typeName : String) (x : Decimal.Binary) (limit : Literal)
    (holds : Decimal.Binary → Decimal.Binary → Bool) : Program :=
  match limit.number? with
  | some y => .answer (holds x y)
  | none => .raise (.literal (.notComparable operator typeName limit.typeName))

/-- Answers whether a name is among literals: an item of a sequence, a key of a mapping, or a piece
of a text. -/
def byPlace (name : String) (names : Literal) : Program :=
  match names with
  | .list items => .answer (items.any fun v ↦ v.same (.text name))
  | .tuple items => .answer (items.any fun v ↦ v.same (.text name))
  | .mapping entries => .answer (entries.any fun e ↦ e.1.same (.text name))
  | .text s => .answer (Text.occurs name.toList s.toList)
  | v => .raise (.literal (.notSearchable v.typeName))

/-- Goes on with a literal, which is made first, or raises why it cannot be made. -/
def makeOrRaise (b : Build Literal) (next : Literal → Program) : Program :=
  .make b fun
    | .ok v => next v
    | .error (.failure e) => .passOn e.number
    | .error (.fault e) => .raise e

/-- Answers by whether a selection found anything. A failure is passed on unless there is an answer
for it; anything else that was raised is raised again. -/
def byResult (otherwise : Option Bool) : Except Raised (List NodeId) → Program
  | .ok found => .answer (!found.isEmpty)
  | .error (.failure e) =>
    match otherwise with
    | some truth => .answer truth
    | none => .passOn e.number
  | .error (.fault e) => .raise e

/-- Runs a selection with an engine of a strategy, made first, and a path, made next. -/
def selection (vars : Expression.Variables) (strategy : Literal) (path : Expression)
    (otherwise : Option Bool) (i : NodeId) : Program :=
  let wanted := if strategy.truthy then strategy else .text Strategy.recursive.name
  match Strategy.ofLiteral wanted with
  | .error e => .raise e
  | .ok chosen =>
    let engine : Engine := ⟨chosen, false⟩
    .note engine.ready
      (makeOrRaise (do toPath (← path.evaluate vars)) fun
        | .path _ (some p) => .select engine i p (byResult otherwise)
        | _ => .raise (.literal .stepsTaken))

/-- What the predicate does when it is called with a node, where its expressions may name
variables. -/
def program (f : Forest) (vars : Expression.Variables) (rule : Rule) (i : NodeId) : Program :=
  match rule with
  | constant truth => .answer truth
  | attributeFilled name => withAttribute f i name fun v ↦ .answer v.truthy
  | attributeBelow name limit =>
    withAttribute f i name fun v ↦
      match v with
      | .text s =>
        match Decimal.number? s with
        | none => .raise (.badNumber (Text.quoted s))
        | some x => byOrder "<" "float" (.ofFloat x) limit Decimal.Binary.lt
      | _ => .raise .notANumber
  | nameAmong names =>
    match (f.content i).name? with
    | some name => byPlace name names
    | none => .raise (.lacks (f.content i).className "name")
  | textHas text =>
    match text with
    | .text s => .answer (Text.occurs s.toList (f.textContent i).toList)
    | v => .raise (.literal (.notAPiece v.typeName))
  | childrenAtLeast count =>
    let present : Decimal.Binary := .finite false (f.elementChildren i).length 0
    byOrder ">=" "int" present count fun x y ↦ !x.lt y
  | parentNamed name =>
    match f.parent i with
    | some p => .answer (name.same (.text (f.content p).nodeName))
    | none => .answer false
  | raises e => .raise e
  | raisesIf name value e =>
    withAttribute f i name fun v ↦ if v.same value then .raise e else .answer true
  | tests step =>
    makeOrRaise (step.evaluate vars) fun
      | .step s => .test i s fun
        | .ok truth => .answer truth
        | .error (.failure e) => .passOn e.number
        | .error (.fault e) => .raise e
      | v => .raise ((v.writingFault?.map .literal).getD (.notAStep v.written))
  | selects strategy path => selection vars strategy path none i
  | triesToSelect strategy path otherwise => selection vars strategy path (some otherwise) i

end Rule

/-- The programs of a list of rules, where their expressions may name variables; a predicate
without a rule answers no. -/
def Programs.ofRules (f : Forest) (vars : Expression.Variables) (rules : List (String × Rule)) :
    Programs := fun p i ↦
  match rules.find? fun e ↦ e.1 == p.id with
  | some e => e.2.program f vars i
  | none => .answer false

end TreePath
