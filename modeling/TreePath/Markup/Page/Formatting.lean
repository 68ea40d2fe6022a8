import TreePath.Markup.Page.Building

/-!
# Ending formatting elements

The end tag of a formatting element may come while elements are open that do not stop with it: in
`<b><p></b>` the paragraph goes on. `endFormatting` then splits the formatting element in two. One
part ends where the first block in it begins; the other goes into the block and takes over what is
in there.

Splitting copies the formatting elements between the split element and the block as well, but looks
at three of them at most, and is done in at most eight rounds for one end tag. Both bounds belong to
how pages are read: a page that would need more of either is left as it is by then.
-/

namespace TreePath.Markup.Page

/-- The place of an item in a list, counted from its end. -/
def placeFromEnd (items : List (Option Nat)) (i : Nat) : Nat :=
  (items.reverse.idxOf (some i))

/-- Takes a copy of an element for the element, among the open ones and the formatting ones. -/
def replaceBy (i new : Nat) : Building Unit :=
  modify fun p ↦ { p with
    stack := p.stack.map fun j ↦ if j == i then new else j
    formatting := p.formatting.map fun f ↦ if f == some i then some new else f }

/-- Copies formatting elements around a block, from the inside, each copy around what came before;
at most so many elements are looked at. Elements that are no longer in the list are closed. The
answer is the outermost element copied and the place in the list where the split element goes. -/
def copyAround (split block : Nat) : Nat → Nat → Nat → Nat → Building (Nat × Nat)
  | 0, _, last, mark => return (last, mark)
  | n + 1, place, last, mark => do
    let p ← get
    match p.stack[place + 1]? with
    | none => return (last, mark)
    | some i =>
      if !p.formatting.contains (some i) then
        unstack i
        copyAround split block n place last mark
      else if i == split then return (last, mark)
      else
        let mark := if last == block then placeFromEnd p.formatting i + 1 else mark
        let new ← copy i
        replaceBy i new
        append new last
        copyAround split block n (place + 1) new mark

/-- Splits a formatting element at a block in it. -/
def splitAt (split block : Nat) : Building Unit := do
  let p ← get
  let outside := ((p.stack.dropWhile (· != split)).drop 1).headD 0
  let (last, mark) ←
    copyAround split block 3 (p.stack.idxOf block) block (placeFromEnd p.formatting split)
  detach last
  if tableNames.contains (p.nameAt outside) then placeFostered last else append outside last
  let new ← copy split
  moveContents block new
  append block new
  modify fun p ↦
    let listed := (p.formatting.erase (some split)).reverse
    let opened := p.stack.erase split
    let place := opened.idxOf block
    { p with
      formatting := (listed.take mark ++ some new :: listed.drop mark).reverse
      stack := opened.take place ++ new :: opened.drop place }

/-- One round of ending a formatting element of a name; it answers whether another round is needed.
-/
def endFormattingOnce (name : String) : Building Bool := do
  let p ← get
  match p.formatting? name with
  | none => done (popAny name)
  | some i =>
    if !p.stack.contains i then done (unformat i)
    else if !p.inScope .usual name then done (popAny name)
    else
      let within := (p.stack.takeWhile (· != i)).reverse
      match within.find? fun j ↦ (p.element j).isSpecial with
      | some block => retry (splitAt i block)
      | none => done do
        popElement i
        unformat i

/-- Ends the last formatting element of a name, in at most so many rounds. -/
def endFormattingIn (name : String) : Nat → Building Unit
  | 0 => return
  | n + 1 => do
    if ← endFormattingOnce name then endFormattingIn name n

/-- Ends the last formatting element of a name. -/
def endFormatting (name : String) : Building Unit :=
  endFormattingIn name 8

end TreePath.Markup.Page
