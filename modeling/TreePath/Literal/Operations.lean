import TreePath.Literal.Coercion

/-!
# Operations on literals

What a caller can do with a value at hand: take its length, go through its items, pick one or a
slice, compare two values and join them. Places are whole numbers, truth values included; a mapping
is asked for a key instead. A path whose steps were taken away (`TreePath.Literal.Features`) answers
to nothing any more.

Which of several complaints is raised is part of each operation: the stride of a slice is looked at
before its bounds, the size of an index before its place. A comparison that comes to a path without
steps is no comparison but a failure, unless it was decided before; `same?` is equality with this
third answer.
-/

namespace TreePath

open Build

/-! ### Slices -/

/-- A slice: where it starts, before what place it stops, and its stride. -/
structure Slice where
  /-- The first place. -/
  start : Option Int
  /-- The place before which it ends. -/
  stop : Option Int
  /-- How far from one place to the next. -/
  stride : Option Int
deriving DecidableEq, Repr

namespace Slice

/-- A place between two bounds; a negative place counts from the end. -/
def clamp (length low high i : Int) : Int :=
  let j := if i < 0 then i + length else i
  max low (min high j)

/-- The places from `i` on, `stride` apart, at most `fuel` of them, on this side of `stop`. -/
def walk (stop stride : Int) : Nat → Int → List Nat
  | 0, _ => []
  | fuel + 1, i =>
    if (0 < stride && decide (i < stop)) || (stride < 0 && decide (stop < i)) then
      i.toNat :: walk stop stride fuel (i + stride)
    else []

/-- The places of a sequence of some length that a slice takes, in order; nothing if its stride is
zero. -/
def places? (s : Slice) (length : Nat) : Option (List Nat) :=
  let stride := s.stride.getD 1
  if stride = 0 then none
  else
    let n : Int := length
    let (low, high) := if 0 < stride then (0, n) else (-1, n - 1)
    let start := (s.start.map (clamp n low high)).getD (if 0 < stride then low else high)
    let stop := (s.stop.map (clamp n low high)).getD (if 0 < stride then high else low)
    some (walk stop stride length start)

/-- The items of a list that a slice takes; nothing if its stride is zero. -/
def take? {α : Type} (s : Slice) (items : List α) : Option (List α) :=
  (s.places? items.length).map fun ks ↦ ks.filterMap fun k ↦ items[k]?

end Slice

/-- The place that an index means in a sequence of some length: a negative index counts from the
end. -/
def resolveIndex? (length : Nat) (i : Int) : Option Nat :=
  let j := if i < 0 then i + length else i
  if 0 ≤ j && j < length then some j.toNat else none

/-! ### Reading -/

namespace Literal

/-- Whether a literal is a step. -/
def isStep : Literal → Bool
  | step _ => true
  | _ => false

/-- The length of a literal that has one. -/
def length (v : Literal) : Build Nat :=
  match v with
  | list items => return items.length
  | tuple items => return items.length
  | text s => return Text.size s.toList
  | mapping entries => return entries.length
  | step (.all members) => return members.length
  | path _ (some p) => return p.length
  | path _ .none => throw .stepsTaken
  | v => throw (.noLength v.typeName)

/-- The items of a literal, one after the other. -/
def items (v : Literal) : Build (List Literal) := do
  match ← items? v with
  | some items => return items
  | .none => throw (.notIterable v.typeName)

/-- A truth value or whole number as a whole number. -/
def whole? : Literal → Option Int
  | bool b => some (if b then 1 else 0)
  | int i => some i
  | _ => .none

/-- What can be picked from by place: the class to complain about, and the items. -/
def indexed (v : Literal) : Build (String × List Literal) :=
  match v with
  | list items => return ("list", items)
  | tuple items => return ("tuple", items)
  | text s => return ("string", (Text.pieces s.toList).map fun c ↦ text (String.ofList c))
  | path _ (some p) => return ("tuple", p.steps.map step)
  | path _ .none => throw .stepsTaken
  | v => throw (.notSubscriptable v.typeName)

/-- Whether a whole number fits a signed machine word, as the number of a place must. -/
def fitsWord (i : Int) : Bool :=
  -0x8000000000000000 ≤ i && i ≤ 0x7fffffffffffffff

/-- The item at a place. -/
def itemAt (v : Literal) (i : Int) : Build Literal := do
  let (kind, items) ← indexed v
  if !fitsWord i then
    throw .indexTooLarge
  match (resolveIndex? items.length i).bind fun k ↦ items[k]? with
  | some x => return x
  | .none => throw (.outOfRange kind)

mutual

/-- Why a literal cannot be a key, if it cannot: a part of it can change, or has no steps. -/
def keyFault? : Literal → Option LiteralError
  | list _ => some (.unhashable "list")
  | mapping _ => some (.unhashable "dict")
  | tuple items => keyFaultAmong? items
  | path _ .none => some .stepsTaken
  | _ => .none

/-- Why the first of several literals that cannot be a key cannot. -/
def keyFaultAmong? : List Literal → Option LiteralError
  | [] => .none
  | v :: rest => (keyFault? v).or (keyFaultAmong? rest)

end

/-- The value of a mapping at a key. -/
def valueAt (entries : List (Literal × Literal)) (key : Literal) : Build Literal :=
  match keyFault? key with
  | some e => throw e
  | .none =>
    match entries.find? fun e ↦ e.1.same key with
    | some e => return e.2
    | .none => throw (.noKey key.written)

/-- What a literal holds at a place, or at a key. -/
def item (v index : Literal) : Build Literal :=
  match v with
  | mapping entries => valueAt entries index
  | v =>
    match index.whole? with
    | some i => itemAt v i
    | .none => do
      let (kind, _) ← indexed v
      throw (.badIndex kind index.typeName)

/-- A bound or the stride of a slice. -/
def sliceBound? (v : Literal) : Build (Option Int) :=
  match v, v.whole? with
  | none, _ => return .none
  | _, some i => return some i
  | _, .none => throw .badBound

/-- The items that a slice takes, the stride being looked at first. -/
def slice (v start stop stride : Literal) : Build (List Literal) := do
  if let mapping _ := v then
    throw (.unhashable "slice")
  let (_, items) ← indexed v
  let k ← sliceBound? stride
  if k == some 0 then
    throw .zeroStride
  let i ← sliceBound? start
  match (Slice.mk i (← sliceBound? stop) k).take? items with
  | some xs => return xs
  | .none => throw .zeroStride

/-- What a value without such a feature of its own was given under a name; only functions can be
given anything. -/
def givenFeature (v : Literal) (feature : String) : Build Literal := do
  if let function p := v then
    if let some s ← featureOf? p.id feature then
      return text s
  throw (.missing v.typeName feature)

/-- The steps of a path or the members of a conjunction. -/
def stepsOf (v : Literal) : Build Literal :=
  match v with
  | path _ (some p) => return tuple (p.steps.map step)
  | path _ .none => throw .stepsTaken
  | step (.all members) => return tuple (members.map step)
  | v => v.givenFeature "steps"

/-- The first step of a path. -/
def headOf (v : Literal) : Build Literal :=
  match v with
  | path _ (some p) => return step p.head
  | path _ .none => throw .stepsTaken
  | v => v.givenFeature "head"

/-- The steps of a path after the first. -/
def restOf (v : Literal) : Build Literal :=
  match v with
  | path _ (some p) => return tuple (p.rest.map step)
  | path _ .none => throw .stepsTaken
  | v => v.givenFeature "rest"

/-- Looks for the way to test a value on a node. Steps have one; what a function was given in its
place is no function. -/
def tester (v : Literal) : Build (Option LiteralError) := do
  if v.isStep then
    return .none
  return some (.notCallableValue (← v.givenFeature "matches").typeName)

/-- Whether two literals are one and the same although they may not be equal: a path, which may lack
its steps, or the number that is none. -/
def isOne : Literal → Literal → Bool
  | path i _, path j _ => i == j
  | float x, float y => x.isNaN && y.isNaN
  | _, _ => false

mutual

/-- Whether two literals are equal, or nothing if the answer depends on steps that were taken away.
Within a collection everything is equal to itself. -/
def same? : Literal → Literal → Option Bool
  | path _ (some p), path _ (some q) => some (p.same q)
  | path _ _, path _ _ => .none
  | list xs, list ys => if xs.length == ys.length then sameItems? xs ys else some false
  | tuple xs, tuple ys => sameItems? xs ys
  | mapping xs, mapping ys =>
    if xs.length == ys.length then sameValues? xs ys else some false
  | v, w => some (v.same w)

/-- Whether two lists of literals are equal, looked at from left to right. -/
def sameItems? : List Literal → List Literal → Option Bool
  | [], [] => some true
  | x :: xs, y :: ys =>
    match if x.isOne y then some true else same? x y with
    | some true => sameItems? xs ys
    | r => r
  | _, _ => some false

/-- Whether every key here has an equal value there, looked at in order. -/
def sameValues? : List (Literal × Literal) → List (Literal × Literal) → Option Bool
  | [], _ => some true
  | (k, v) :: rest, others =>
    match others.find? fun e ↦ same k e.1 with
    | .none => some false
    | some e =>
      match if v.isOne e.2 then some true else same? v e.2 with
      | some true => sameValues? rest others
      | r => r

end

/-- Whether two literals are equal. -/
def equal (v w : Literal) : Build Bool :=
  match same? v w with
  | some b => return b
  | .none => throw .stepsTaken

/-- Whether two literals are one element of a set: their hash keys agree and they are equal. -/
def sameElement (v w : Literal) : Bool :=
  match v, w with
  | step s, step t => s.hashKey.same t.hashKey && s.same t
  | path _ (some p), path _ (some q) =>
    Step.HashKey.sameAll (Step.hashKeys p.steps) (Step.hashKeys q.steps) && p.same q
  | v, w => v.isOne w || same? v w == some true

/-! ### Joining -/

/-- The bits that two whole numbers have in common, negative numbers with endless leading ones. -/
def commonBits (a b : Int) : Int :=
  match a, b with
  | .ofNat m, .ofNat n => .ofNat (m &&& n)
  | .ofNat m, .negSucc n => .ofNat (m - (m &&& n))
  | .negSucc m, .ofNat n => .ofNat (n - (n &&& m))
  | .negSucc m, .negSucc n => .negSucc (m ||| n)

/-- A number as a floating-point number, which a whole number can be too large for. -/
def approximate? : Literal → Option (Except LiteralError Float)
  | float x => some (.ok x)
  | v =>
    v.whole?.map fun i ↦
      let x := Float.ofInt i
      if x.isInf then .error .tooLarge else .ok x

/-- Both literals at once: the conjunction of two steps, the common bits of two numbers. -/
def both (v w : Literal) : Build Literal :=
  match v, w with
  | step a, step b => do return .step (← conjunction (a.conjuncts ++ b.conjuncts))
  | bool a, bool b => return .bool (a && b)
  | v, w =>
    match v.whole?, w.whole? with
    | some a, some b => return .int (commonBits a b)
    | _, _ => throw (.unsupported "&" v.typeName w.typeName)

/-- One literal after the other: a path goes on with the steps of a path, a list or a tuple; two
texts, lists or tuples are joined, and two numbers added. -/
def plus (v w : Literal) : Build Literal :=
  match v, w with
  | path _ (some p), path _ (some q) => do return path (← freshId) (some (p ++ q))
  | path _ (some p), list items => do
    return path (← freshId) (some ⟨p.head, p.rest ++ (← asSteps items)⟩)
  | path _ (some p), tuple items => do
    return path (← freshId) (some ⟨p.head, p.rest ++ (← asSteps items)⟩)
  | path _ _, path _ _ => throw .stepsTaken
  -- a path without steps fails before the items are read
  | path _ .none, list _ => throw .stepsTaken
  | path _ .none, tuple _ => throw .stepsTaken
  | text a, text b => return .text (a ++ b)
  | list xs, list ys => return .list (xs ++ ys)
  | tuple xs, tuple ys => return .tuple (xs ++ ys)
  | text _, w => throw (.cannotJoin "str" w.typeName)
  | list _, w => throw (.cannotJoin "list" w.typeName)
  | tuple _, w => throw (.cannotJoin "tuple" w.typeName)
  | v, w =>
    match v.whole?, w.whole? with
    | some a, some b => return .int (a + b)
    | _, _ =>
      match v.approximate?, w.approximate? with
      | some (.ok a), some (.ok b) => return .float (a + b)
      | some _, some _ => throw .tooLarge
      | _, _ => throw (.unsupported "+" v.typeName w.typeName)

end Literal

end TreePath
