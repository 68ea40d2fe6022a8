import TreePath.Decimal.Whole
import TreePath.Literal.Basic

/-!
# What can be wrong with a literal

The causes for which a literal is refused, or an operation on it, each with the class under which it
is raised and its wording.

Not every literal has a written form (`Literal.writingFault?`). A number with too many digits has
none, and neither has a path without its steps; a collection has none if one of its parts has none,
and the first such part is what is complained of. Texts, functions and classes always have one.
-/

namespace TreePath

/-- Why a literal, or an operation on one, is refused. -/
inductive LiteralError where
  /-- A path without steps. -/
  | noSteps
  /-- A value of this class, written like this, is not a step. -/
  | notAStep (typeName shown : String)
  /-- A name test needs a text with at least one character. -/
  | badName (shown : String)
  /-- An attribute test needs a mapping. -/
  | notAMapping (typeName : String)
  /-- An attribute test needs texts for its keys and values. -/
  | badEntry (key value : String)
  /-- A predicate test needs a function. -/
  | notCallable (typeName : String)
  /-- A conjunction has steps for members. -/
  | notAMember (shown : String)
  /-- The members of a conjunction come as a sequence. -/
  | notIterable (typeName : String)
  /-- The steps of a path come as a sequence. -/
  | notSpreadable (typeName : String)
  /-- A value that can change cannot be a key. -/
  | unhashable (typeName : String)
  /-- An operator does not apply to values of these classes. -/
  | unsupported (operator left right : String)
  /-- Values of these classes have no order. -/
  | notComparable (operator left right : String)
  /-- A value of this class has nothing in it to look for. -/
  | notSearchable (typeName : String)
  /-- What is looked for in a text is no text but of this class. -/
  | notAPiece (typeName : String)
  /-- A value of one class cannot be joined to one of another. -/
  | cannotJoin (left right : String)
  /-- A value of this class has no length. -/
  | noLength (typeName : String)
  /-- A value of this class has no members to pick from. -/
  | notSubscriptable (typeName : String)
  /-- There is no member at this place. -/
  | outOfRange (typeName : String)
  /-- A place of a sequence of this class is no value of this class. -/
  | badIndex (kind typeName : String)
  /-- The number of a place does not fit a machine word. -/
  | indexTooLarge
  /-- A mapping has no value at the key written like this. -/
  | noKey (shown : String)
  /-- A bound or stride of a slice is not a whole number. -/
  | badBound
  /-- A slice cannot stay where it is. -/
  | zeroStride
  /-- A value of this class never changes. -/
  | immutable (className : String)
  /-- The attributes of a test never change. -/
  | fixedAttributes
  /-- The name of a feature is no text but of this class. -/
  | badFeatureName (typeName : String)
  /-- A value of this class has no such feature. -/
  | missing (typeName feature : String)
  /-- A feature that can be read but not changed. -/
  | readOnly (typeName feature : String)
  /-- A computed feature that cannot be removed. -/
  | notRemovable (typeName feature : String)
  /-- A number of this class has a part that cannot be changed. -/
  | notWritable (typeName feature : String)
  /-- A part of a function that cannot be changed. -/
  | fixedPart
  /-- A feature of a function takes a value of some sort only. -/
  | wrongSort (feature sort : String)
  /-- The features of a function cannot be taken away all at once. -/
  | featuresFixed
  /-- The class of a value cannot be removed. -/
  | classFixed
  /-- A value of this class was used as a function. -/
  | notCallableValue (typeName : String)
  /-- A value of this class has no items to assign. -/
  | noAssignment (typeName : String)
  /-- The path of a file is no text but of this class. -/
  | notAPath (typeName : String)
  /-- The number of a level is no whole number. -/
  | levelNotWhole
  /-- A whole number is too large to be a floating-point number. -/
  | tooLarge
  /-- A whole number has too many digits to be written. -/
  | tooManyDigits
  /-- The steps of this path were taken away. -/
  | stepsTaken
  /-- The steps of this path were taken away already. -/
  | stepsTakenBefore
  /-- No variable has this name. -/
  | unbound (name : String)
deriving DecidableEq, Repr

namespace LiteralError

/-- The class under which a refusal is raised. -/
def kindName : LiteralError → String
  | noSteps => "MalformedPath"
  | outOfRange _ | indexTooLarge => "IndexError"
  | zeroStride | tooManyDigits => "ValueError"
  | immutable _ | missing .. | readOnly .. | notRemovable .. | notWritable .. | fixedPart
  | stepsTaken | stepsTakenBefore => "AttributeError"
  | unbound _ | noKey _ => "KeyError"
  | tooLarge => "OverflowError"
  | _ => "TypeError"

/-- The wording of a refusal. -/
def message : LiteralError → String
  | noSteps => "A path needs at least one step"
  | notAStep typeName shown => "Cannot build a path step from " ++ typeName ++ ": " ++ shown
  | badName shown => "NameTest needs a non-empty string name, got " ++ shown
  | notAMapping typeName => "AttributeTest needs a mapping, got " ++ typeName
  | badEntry key value =>
    "AttributeTest keys and values must be strings, got " ++ key ++ ": " ++ value
  | notCallable typeName => "PredicateTest needs a callable, got " ++ typeName
  | notAMember shown => "Conjunction members must be steps, got " ++ shown
  | notIterable typeName => "'" ++ typeName ++ "' object is not iterable"
  | notSpreadable typeName =>
    "path_engine.dsl.paths.Path() argument after * must be an iterable, not " ++ typeName
  | unhashable typeName => "unhashable type: '" ++ typeName ++ "'"
  | unsupported operator left right =>
    "unsupported operand type(s) for " ++ operator ++ ": '" ++ left ++ "' and '" ++ right ++ "'"
  | notComparable operator left right =>
    "'" ++ operator ++ "' not supported between instances of '" ++ left ++ "' and '" ++ right ++ "'"
  | notSearchable typeName => "argument of type '" ++ typeName ++ "' is not iterable"
  | notAPiece typeName => "'in <string>' requires string as left operand, not " ++ typeName
  | cannotJoin left right =>
    "can only concatenate " ++ left ++ " (not \"" ++ right ++ "\") to " ++ left
  | noLength typeName => "object of type '" ++ typeName ++ "' has no len()"
  | notSubscriptable typeName => "'" ++ typeName ++ "' object is not subscriptable"
  | outOfRange typeName => typeName ++ " index out of range"
  | badIndex kind typeName =>
    if kind == "string" then "string indices must be integers, not '" ++ typeName ++ "'"
    else kind ++ " indices must be integers or slices, not " ++ typeName
  | indexTooLarge => "cannot fit 'int' into an index-sized integer"
  | noKey shown => shown
  | badBound => "slice indices must be integers or None or have an __index__ method"
  | zeroStride => "slice step cannot be zero"
  | immutable className => className ++ " is immutable"
  | fixedAttributes => "'mappingproxy' object does not support item assignment"
  | badFeatureName typeName => "attribute name must be string, not '" ++ typeName ++ "'"
  | missing typeName feature => "'" ++ typeName ++ "' object has no attribute '" ++ feature ++ "'"
  | readOnly typeName feature =>
    "'" ++ typeName ++ "' object attribute '" ++ feature ++ "' is read-only"
  | notRemovable typeName feature =>
    "property '" ++ feature ++ "' of '" ++ typeName ++ "' object has no deleter"
  | notWritable typeName feature =>
    "attribute '" ++ feature ++ "' of '" ++ typeName ++ "' objects is not writable"
  | fixedPart => "readonly attribute"
  | wrongSort feature sort => feature ++ " must be set to a " ++ sort
  | featuresFixed => "cannot delete __dict__"
  | classFixed => "can't delete __class__ attribute"
  | notCallableValue typeName => "'" ++ typeName ++ "' object is not callable"
  | noAssignment typeName => "'" ++ typeName ++ "' object does not support item assignment"
  | tooManyDigits => Decimal.limitComplaint ""
  | notAPath typeName =>
    "stat: path should be string, bytes, os.PathLike or integer, not " ++ typeName
  | levelNotWhole => "level must be an integer"
  | tooLarge => "int too large to convert to float"
  | stepsTaken => "'Path' object has no attribute '_steps'"
  | stepsTakenBefore => "_steps"
  | unbound name => Text.quoted name

end LiteralError

namespace Literal

mutual

/-- Why a literal has no written form, if it has none: what is wrong with the first part of it that
is a path without its steps or a whole number with too many digits. -/
def writingFault? : Literal → Option LiteralError
  | path _ .none => some .stepsTaken
  | int i => if Decimal.isTooLong i then some .tooManyDigits else .none
  | list items => writingFaultAmong? items
  | tuple items => writingFaultAmong? items
  | mapping entries => entryFault? entries
  | _ => .none

/-- Why the first of several literals that has no written form has none. -/
def writingFaultAmong? : List Literal → Option LiteralError
  | [] => .none
  | v :: rest => (writingFault? v).or (writingFaultAmong? rest)

/-- Why the first key or value of a mapping that has no written form has none. -/
def entryFault? : List (Literal × Literal) → Option LiteralError
  | [] => .none
  | (k, v) :: rest => ((writingFault? k).or (writingFault? v)).or (entryFault? rest)

end

end Literal

end TreePath
