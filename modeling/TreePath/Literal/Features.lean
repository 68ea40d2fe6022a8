import TreePath.Literal.Operations

/-!
# Features of literals

Every value has features: those that belong to its class, and for functions also those that a caller
gave them. Steps and paths refuse every new feature, and the other values allow no change of what
belongs to their class, so a change succeeds in two cases only: a function takes on any new feature,
and the slot that holds the steps of a path can be emptied (`Literal.removeFeature`).

The name of a function is such a feature. What was changed is kept apart from the values (in
`BuildState`), and `Literal.refresh` brings a value up to date with it.

The tables say which features a class has, not what they do; they decide between the two complaints
that a feature is missing and that it cannot be changed. A path counts as changed when the slot of
its steps is emptied, and everything that would look at the steps fails from then on in the same
way.
-/

namespace TreePath.Literal

open Build

/-! ### The features of classes -/

/-- The features that every class has. -/
def commonFeatures : List String := [
  "__delattr__", "__dir__", "__doc__", "__eq__", "__format__", "__ge__", "__getattribute__",
  "__getstate__", "__gt__", "__hash__", "__init__", "__init_subclass__", "__le__", "__lt__",
  "__ne__", "__new__", "__reduce__", "__reduce_ex__", "__repr__", "__setattr__", "__sizeof__",
  "__str__", "__subclasshook__"]

/-- The features that belong to the class of a truth value or a whole number besides the common
ones. -/
def wholeNumberFeatures : List String := [
  "__abs__", "__add__", "__and__", "__bool__", "__ceil__", "__divmod__", "__float__", "__floor__",
  "__floordiv__", "__getnewargs__", "__index__", "__int__", "__invert__", "__lshift__", "__mod__",
  "__mul__", "__neg__", "__or__", "__pos__", "__pow__", "__radd__", "__rand__", "__rdivmod__",
  "__rfloordiv__", "__rlshift__", "__rmod__", "__rmul__", "__ror__", "__round__", "__rpow__",
  "__rrshift__", "__rshift__", "__rsub__", "__rtruediv__", "__rxor__", "__sub__", "__truediv__",
  "__trunc__", "__xor__", "as_integer_ratio", "bit_count", "bit_length", "conjugate", "from_bytes",
  "to_bytes"]

/-- The features that belong to the class of a floating-point number besides the common ones. -/
def fractionFeatures : List String := [
  "__abs__", "__add__", "__bool__", "__ceil__", "__divmod__", "__float__", "__floor__",
  "__floordiv__", "__getformat__", "__getnewargs__", "__int__", "__mod__", "__mul__", "__neg__",
  "__pos__", "__pow__", "__radd__", "__rdivmod__", "__rfloordiv__", "__rmod__", "__rmul__",
  "__round__", "__rpow__", "__rsub__", "__rtruediv__", "__sub__", "__truediv__", "__trunc__",
  "as_integer_ratio", "conjugate", "fromhex", "hex", "is_integer"]

/-- The features that belong to the class of a text besides the common ones. -/
def textFeatures : List String := [
  "__add__", "__contains__", "__getitem__", "__getnewargs__", "__iter__", "__len__", "__mod__",
  "__mul__", "__rmod__", "__rmul__", "capitalize", "casefold", "center", "count", "encode",
  "endswith", "expandtabs", "find", "format", "format_map", "index", "isalnum", "isalpha",
  "isascii", "isdecimal", "isdigit", "isidentifier", "islower", "isnumeric", "isprintable",
  "isspace", "istitle", "isupper", "join", "ljust", "lower", "lstrip", "maketrans", "partition",
  "removeprefix", "removesuffix", "replace", "rfind", "rindex", "rjust", "rpartition", "rsplit",
  "rstrip", "split", "splitlines", "startswith", "strip", "swapcase", "title", "translate", "upper",
  "zfill"]

/-- The features that belong to the class of a tuple besides the common ones. -/
def tupleFeatures : List String := [
  "__add__", "__class_getitem__", "__contains__", "__getitem__", "__getnewargs__", "__iter__",
  "__len__", "__mul__", "__rmul__", "count", "index"]

/-- The features that belong to the class of a list besides the common ones. -/
def listFeatures : List String := [
  "__add__", "__class_getitem__", "__contains__", "__delitem__", "__getitem__", "__iadd__",
  "__imul__", "__iter__", "__len__", "__mul__", "__reversed__", "__rmul__", "__setitem__", "append",
  "clear", "copy", "count", "extend", "index", "insert", "pop", "remove", "reverse", "sort"]

/-- The features that belong to the class of a mapping besides the common ones. -/
def mappingFeatures : List String := [
  "__class_getitem__", "__contains__", "__delitem__", "__getitem__", "__ior__", "__iter__",
  "__len__", "__or__", "__reversed__", "__ror__", "__setitem__", "clear", "copy", "fromkeys", "get",
  "items", "keys", "pop", "popitem", "setdefault", "update", "values"]

/-- The features that belong to the class of a one-shot sequence besides the common ones. -/
def iteratorFeatures : List String := [
  "__iter__", "__length_hint__", "__next__", "__setstate__"]

/-- The parts of a whole number. -/
def wholeNumberParts : List String := ["denominator", "imag", "numerator", "real"]

/-- The parts of a floating-point number. -/
def fractionParts : List String := ["imag", "real"]

/-- The features that belong to the class of a literal, the common ones apart. -/
def classFeatures : Literal → List String
  | none => ["__bool__"]
  | bool _ | int _ => wholeNumberFeatures
  | float _ => fractionFeatures
  | text _ => textFeatures
  | list _ => listFeatures
  | tuple _ => tupleFeatures
  | mapping _ => mappingFeatures
  | iterator _ => iteratorFeatures
  | _ => []

/-- The parts of a number, and the class they belong to. -/
def parts : Literal → List String × String
  | bool _ | int _ => (wholeNumberParts, "int")
  | float _ => (fractionParts, "float")
  | _ => ([], "")

/-- Why a feature of a value that takes on none cannot be changed. -/
def featureFault (v : Literal) (feature : String) : LiteralError :=
  if v.parts.1.contains feature then .notWritable v.parts.2 feature
  else if commonFeatures.contains feature || v.classFeatures.contains feature then
    .readOnly v.typeName feature
  else .missing v.typeName feature

/-! ### Functions -/

/-- The parts of a function that never change. -/
def fixedParts : List String := ["__builtins__", "__closure__", "__globals__"]

/-- The parts of a function that take a value of one sort only. -/
def sortedParts : List (String × String) := [
  ("__annotations__", "dict object"), ("__code__", "code object"),
  ("__defaults__", "tuple object"), ("__kwdefaults__", "dict object")]

/-- The parts of a function that take a text and cannot be removed. -/
def textParts : List String := ["__name__", "__qualname__"]

/-- The parts of a function that can be removed at any time. -/
def loseableParts : List String :=
  ["__annotations__", "__defaults__", "__doc__", "__kwdefaults__", "__module__"]

/-- The class of plain functions; the values of any other class are callable objects. -/
def functionClass : String := "function"

/-- The refusal of a text for the class of a value. -/
def classNeeded : LiteralError :=
  .wrongSort "__class__" "class, not 'str' object"

/-- The refusal of a text for the features of a function. -/
def featuresNeeded : LiteralError :=
  .wrongSort "__dict__" "dictionary, not a 'str'"

/-- Gives a function a feature. -/
def giveFeature (p : Predicate) (feature text : String) : Build Unit := do
  if feature == "__class__" then
    throw classNeeded
  if feature == "__dict__" then
    throw featuresNeeded
  if p.className == functionClass then
    if fixedParts.contains feature then
      throw .fixedPart
    if let some sort := Entries.get? sortedParts feature then
      throw (.wrongSort feature sort)
  else if feature == "__weakref__" then
    throw (.notWritable p.className feature)
  setFeature p.id feature (some text)

/-- Takes a feature from a function, which must have been given to it. -/
def takeGiven (p : Predicate) (feature : String) : Build Unit := do
  match ← featureOf? p.id feature with
  | some _ => setFeature p.id feature Option.none
  | .none => throw (.missing p.className feature)

/-- Takes a feature from a function. -/
def takeFeature (p : Predicate) (feature : String) : Build Unit := do
  if feature == "__class__" then
    throw .classFixed
  if p.className == functionClass then
    if feature == "__dict__" then
      throw .featuresFixed
    if fixedParts.contains feature then
      throw .fixedPart
    if textParts.contains feature then
      throw (.wrongSort feature "string object")
    if feature == "__code__" then
      throw (.wrongSort feature "code object")
    if loseableParts.contains feature then
      return
  else
    if feature == "__weakref__" then
      throw (.notWritable p.className feature)
    if feature == "__dict__" then
      loseFeatures p.id
      return
  takeGiven p feature

/-! ### Attempts at a change -/

/-- The name of a feature that is given as a literal. -/
def featureName (name : Literal) : Build String :=
  match name with
  | text s => return s
  | v => throw (.badFeatureName v.typeName)

/-- Sets a feature to a text. Steps and paths refuse, functions take on whatever is new, and what
belongs to the class of any other value stays as it is. -/
def assignFeature (v : Literal) (feature text : String) : Build Unit :=
  match v with
  | step s => throw (.immutable s.className)
  | path .. => throw (.immutable "Path")
  | function p => giveFeature p feature text
  | v => throw (if feature == "__class__" then classNeeded else v.featureFault feature)

/-- The features of a path that are computed. -/
def pathProperties : List String := ["steps", "head", "rest"]

/-- The features of a path that belong to its class, the common ones apart. -/
def pathMethods : List String :=
  ["of", "select", "__add__", "__getitem__", "__iter__", "__len__", "__module__", "__slots__"]

/-- Removes a feature. Steps refuse; a path gives up the slot that holds its steps, and a function
what it was given. -/
def removeFeature (v : Literal) (feature : String) : Build Unit :=
  match v with
  | step s => throw (.immutable s.className)
  | path id held =>
    if feature == "_steps" then
      match held with
      | some _ => modify fun s ↦ { s with emptied := id :: s.emptied }
      | .none => throw .stepsTakenBefore
    else if pathProperties.contains feature then throw (.notRemovable "Path" feature)
    else if commonFeatures.contains feature || pathMethods.contains feature then
      throw (.readOnly "Path" feature)
    else if feature == "__class__" then throw .classFixed
    else throw (.missing "Path" feature)
  | function p => takeFeature p feature
  | v => if feature == "__class__" then throw .classFixed else throw (v.featureFault feature)

/-- Assigns a key of a test's attributes. No value that a caller can hold allows it. -/
def assignAttribute (v : Literal) : Build Unit := do
  if let step (.attributes _) := v then
    throw .fixedAttributes
  throw (.noAssignment (← v.givenFeature "attributes").typeName)

/-- The class of the view through which the attributes of a test are seen. -/
def viewClass : String := "mappingproxy"

/-- The features that belong to the class of such a view besides the common ones. -/
def viewFeatures : List String := [
  "__class_getitem__", "__contains__", "__getitem__", "__ior__", "__iter__", "__len__", "__or__",
  "__reversed__", "__ror__", "copy", "get", "items", "keys", "values"]

/-- Why a feature of a view cannot be changed. -/
def viewFault (feature : String) : LiteralError :=
  if commonFeatures.contains feature || viewFeatures.contains feature then
    .readOnly viewClass feature
  else .missing viewClass feature

/-- Sets a feature of a test's attributes to a text. -/
def assignViewFeature (v name : Literal) (text : String) : Build Unit := do
  if let step (.attributes _) := v then
    let feature ← featureName name
    throw (if feature == "__class__" then classNeeded else viewFault feature)
  (← v.givenFeature "attributes").assignFeature (← featureName name) text

/-- Removes a feature of a test's attributes. -/
def removeViewFeature (v name : Literal) : Build Unit := do
  if let step (.attributes _) := v then
    let feature ← featureName name
    throw (if feature == "__class__" then .classFixed else viewFault feature)
  (← v.givenFeature "attributes").removeFeature (← featureName name)

/-! ### Values brought up to date -/

/-- A function under the name it has now. -/
def renamed (s : BuildState) (p : Predicate) : Predicate :=
  match (s.features.get? p.id).bind fun es ↦ es.get? "__qualname__" with
  | some title => { p with title := title }
  | .none => p

mutual

/-- A step as it is now that some functions were renamed. -/
def refreshStep (s : BuildState) : Step → Step
  | .predicate p => .predicate (renamed s p)
  | .all members => .all (refreshSteps s members)
  | t => t

/-- Several steps as they are now. -/
def refreshSteps (s : BuildState) : List Step → List Step
  | [] => []
  | t :: rest => refreshStep s t :: refreshSteps s rest

end

mutual

/-- A literal as it is now that the steps of some paths were taken away and some functions were
renamed. -/
def refresh (s : BuildState) : Literal → Literal
  | path id held =>
    path id (if s.emptied.contains id then .none
      else held.map fun p ↦ ⟨refreshStep s p.head, refreshSteps s p.rest⟩)
  | function p => function (renamed s p)
  | step t => step (refreshStep s t)
  | list items => list (refreshAll s items)
  | tuple items => tuple (refreshAll s items)
  | mapping entries => mapping (refreshEntries s entries)
  | v => v

/-- Several literals as they are now. -/
def refreshAll (s : BuildState) : List Literal → List Literal
  | [] => []
  | v :: rest => refresh s v :: refreshAll s rest

/-- The entries of a mapping as they are now. -/
def refreshEntries (s : BuildState) : List (Literal × Literal) → List (Literal × Literal)
  | [] => []
  | (k, v) :: rest => (refresh s k, refresh s v) :: refreshEntries s rest

end

end TreePath.Literal
