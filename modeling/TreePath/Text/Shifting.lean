import TreePath.Text.DoubleByte

/-!
# Encodings that shift

Some encodings of East Asia keep to the bytes below 128 and say in between what they stand for from
there on: by an escape, which calls up a set of characters, or by a shift between two sets that were
called up before. `Shifting.units` gives one entry for each character and one for each piece that
cannot be read; escapes and shifts leave nothing behind.
-/

namespace TreePath.Text

/-- A set of characters that can be called up. -/
inductive CalledSet where
  /-- The characters of one byte. -/
  | ascii
  /-- The Japanese set of one byte. -/
  | roman
  /-- The syllables of one byte. -/
  | syllables
  /-- The usual set of Japanese characters, in an old or a new edition. -/
  | japanese (isOld : Bool)
  /-- The supplementary set of Japanese characters. -/
  | supplementary
  /-- The first plane of Japanese characters, in its later edition or the first one. -/
  | firstPlane (isLate : Bool)
  /-- The second plane of Japanese characters. -/
  | secondPlane
  /-- Korean characters. -/
  | korean
  /-- Simplified Chinese characters. -/
  | chinese
  /-- Latin letters with accents, for single characters only. -/
  | latin
  /-- Greek letters, for single characters only. -/
  | greek
deriving DecidableEq, Repr

namespace CalledSet

/-- How many bytes a character has after its first one. -/
def more : CalledSet → Nat
  | ascii | roman | syllables | latin | greek => 0
  | _ => 1

/-- The byte that an escape ends with to call up a set, and whether its characters have two bytes.
-/
def mark : CalledSet → Nat × Bool
  | ascii => (0x42, false)
  | roman => (0x4a, false)
  | syllables => (0x49, false)
  | japanese true => (0x40, true)
  | japanese false => (0x42, true)
  | supplementary => (0x44, true)
  | firstPlane false => (0x4f, true)
  | firstPlane true => (0x51, true)
  | secondPlane => (0x50, true)
  | korean => (0x43, true)
  | chinese => (0x41, true)
  | latin => (0x41, false)
  | greek => (0x46, false)

/-- The characters of a byte and the one after it, if there are any. -/
def chars? (s : CalledSet) (a b : Nat) : Option (List Char) :=
  match s with
  | ascii => some [Char.ofNat a]
  | roman => some [DoubleByte.romanChar a]
  | syllables => (DoubleByte.syllable? (a + 0x80)).map ([·])
  | japanese _ => (Grid.japanese.char? a b).map ([·])
  | supplementary => (Grid.supplementaryJapanese.char? a b).map ([·])
  | firstPlane isLate => Grid.planeChars? isLate a b
  | secondPlane => (Grid.secondJapanese.char? a b).map ([·])
  | korean => (Grid.korean.char? a b).map ([·])
  | chinese => (Grid.chinese.char? a b).map ([·])
  | latin | greek => none

/-- The Greek character of a number above 127, if there is one. -/
def greek? (n : Nat) : Option Char :=
  if n == 0xa1 then some (Char.ofNat 0x2018)
  else if n == 0xa2 then some (Char.ofNat 0x2019)
  else if n == 0xaf then some (Char.ofNat 0x2015)
  else if n < 0xb4 || n == 0xb7 || n == 0xbb || n == 0xbd then
    if [0xa4, 0xa5, 0xaa, 0xae].contains n then none else some (Char.ofNat n)
  else if n == 0xd2 || 0xfe < n then none
  else some (Char.ofNat (n + 0x2d0))

/-- The character of a byte that stands alone for the set, if there is one. -/
def single? (s : CalledSet) (a : Nat) : Option Char :=
  match s with
  | ascii => if a < 0x80 then some (Char.ofNat a) else none
  | latin => if a < 0x80 then some (Char.ofNat (a + 0x80)) else none
  | greek => if a < 0x80 then greek? (a + 0x80) else some (Char.ofNat (a - 0x80))
  | _ => none

end CalledSet

/-- An encoding that shifts. -/
inductive Shifting where
  /-- By escapes that call up some sets; the second argument tells whether there are shifts too. -/
  | escapes (sets : List CalledSet) (hasShifts : Bool)
  /-- By tildes, between ASCII and simplified Chinese. -/
  | tildes
deriving DecidableEq, Repr

namespace Shifting

/-! ### Steps -/

/-- What a step comes to: what is called up after it, what was read, and how many bytes belong to it
after the first one. -/
abbrev Step (σ : Type) := σ × List (Option Char) × Nat

/-- The characters of bytes, step by step. A step is told what is called up, the first byte, and
those after it. -/
def run {σ : Type} (step : σ → Nat → List Nat → Step σ) (s : σ) : List Nat → List (Option Char)
  | [] => []
  | a :: rest =>
    match step s a rest with
    | (s, found, more) => found ++ run step s (rest.drop more)
termination_by s => s.length
decreasing_by simp only [List.length_drop, List.length_cons]; omega

/-! ### Tildes -/

/-- What a byte after a tilde means in a text that is Chinese or not: whether the text is Chinese
from there on, and what is read. -/
def afterTilde? (isChinese : Bool) (b : Nat) : Option (Bool × List (Option Char)) :=
  if isChinese then if b == 0x7d then some (false, []) else none
  else if b == 0x7e then some (false, [some '~'])
  else if b == 0x0a then some (false, [])
  else if b == 0x7b then some (true, [])
  else none

/-- What stands at the front of bytes with tildes, which are Chinese or not. -/
def tildeStep (isChinese : Bool) (a : Nat) (rest : List Nat) : Step Bool :=
  if a == 0x7e then
    match rest.head?.bind (afterTilde? isChinese) with
    | some (isChinese, found) => (isChinese, found, 1)
    | none => (isChinese, [none], 0)
  else if 0x80 ≤ a then (isChinese, [none], 0)
  else if isChinese then
    match rest.head?.bind (Grid.chinese.char? a) with
    | some c => (true, [some c], 1)
    | none => (true, [none], 0)
  else (false, [some (Char.ofNat a)], 0)

/-! ### Escapes -/

/-- What is called up. -/
structure Called where
  /-- The set before a shift. -/
  first : CalledSet
  /-- The set after a shift. -/
  second : CalledSet
  /-- The set for single characters. -/
  third : CalledSet
  /-- Whether there was a shift. -/
  isShifted : Bool
  /-- Whether an escape of another kind is under way, which is text. -/
  isForeign : Bool

/-- Nothing called up yet. -/
def Called.start : Called :=
  ⟨.ascii, .ascii, .ascii, false, false⟩

/-- The last byte of an escape. -/
def endsEscape (b : Nat) : Bool :=
  (0x41 ≤ b && b ≤ 0x5a) || b == 0x40

/-- The second byte of an escape that calls up a set. -/
def callsSet (b : Nat) : Bool :=
  b == 0x28 || b == 0x29 || b == 0x24 || b == 0x2e || b == 0x26

/-- How an escape ends. -/
inductive EscapeEnd where
  /-- After so many bytes. -/
  | after (length : Nat)
  /-- The bytes break off in it. -/
  | missing
  /-- It is too long. -/
  | never
deriving Repr

/-- How an escape ends, of which so many bytes were seen, all its bytes being given. In an escape
with a prefix the prefix ends with a byte that does not count as the last one. -/
def escapeEnd (takesPrefix : Bool) (bytes : List Nat) : Nat → Nat → EscapeEnd
  | 0, _ => .never
  | fuel + 1, i =>
    if 16 ≤ i then .never
    else
      match bytes.drop i with
      | [] => .missing
      | b :: rest =>
        if endsEscape b then .after (i + 1)
        else if takesPrefix && b == 0x26 && rest.head? == some 0x40 then
          escapeEnd takesPrefix bytes fuel (i + 3)
        else escapeEnd takesPrefix bytes fuel (i + 1)

/-- Where an escape calls a set up. -/
inductive Place where
  /-- Before a shift. -/
  | first
  /-- After a shift. -/
  | second
  /-- For single characters. -/
  | third
deriving DecidableEq, Repr

/-- The mark of the set that an escape calls up, and where; nothing if it is no such escape. -/
def calledMark? (takesPrefix hasSingles : Bool) (escape : List Nat) :
    Option ((Nat × Bool) × Place) :=
  match escape with
  | [_, 0x24, m] => some ((m, true), .first)
  | [_, 0x28, m] => some ((m, false), .first)
  | [_, 0x29, m] => some ((m, false), .second)
  | [_, 0x2e, m] => if hasSingles then some ((m, false), .third) else none
  | [_, 0x24, 0x28, m] => some ((m, true), .first)
  | [_, 0x24, 0x29, m] => some ((m, true), .second)
  | [_, _, _, 0x1b, 0x24, 0x42] => if takesPrefix then some ((0x42, true), .first) else none
  | _ => none

/-- What an escape calls up, if it may. -/
def Called.escape? (s : Called) (sets : List CalledSet) (takesPrefix : Bool) (escape : List Nat) :
    Option Called :=
  match calledMark? takesPrefix (sets.contains .latin) escape with
  | none => none
  | some (mark, place) =>
    match (CalledSet.ascii :: sets).find? fun set ↦ set.mark == mark with
    | none => none
    | some set =>
      some (match place with
        | .first => { s with first := set }
        | .second => { s with second := set }
        | .third => { s with third := set })

/-- What stands at the front of bytes with escapes. -/
def escapeStep (sets : List CalledSet) (hasShifts : Bool) (s : Called) (a : Nat)
    (rest : List Nat) : Step Called :=
  let plain : Step Called := (s, [some (Char.ofNat a)], 0)
  if s.isForeign then ({ s with isForeign := !endsEscape a }, [some (Char.ofNat a)], 0)
  else if a == 0x1b then
    match rest with
    | [] => (s, [none], 0)
    | b :: _ =>
      if callsSet b then
        match escapeEnd (!hasShifts) (a :: rest) 16 1 with
        | .missing => (s, [none], rest.length)
        | .never => (s, [none], 0)
        | .after n =>
          match s.escape? sets (!hasShifts) ((a :: rest).take n) with
          | some s => (s, [], n - 1)
          | none => (s, [none], n - 1)
      else if b == 0x4e && sets.contains .latin then
        match rest with
        | _ :: c :: _ => (s, [s.third.single? c], 2)
        | _ => (s, [none], rest.length)
      else ({ s with isForeign := true }, [some (Char.ofNat a)], 0)
  else if a == 0x0f && hasShifts then ({ s with isShifted := false }, [], 0)
  else if a == 0x0e && hasShifts then ({ s with isShifted := true }, [], 0)
  else if a == 0x0a then ({ s with isShifted := false }, [some '\n'], 0)
  else if a < 0x20 then plain
  else if 0x80 ≤ a then (s, [none], 0)
  else
    let set := if s.isShifted then s.second else s.first
    if rest.length < set.more then (s, [none], rest.length)
    else
      match set.chars? a (rest.headD 0) with
      | some cs => (s, cs.map some, set.more)
      | none => (s, [none], set.more)

/-! ### All of them -/

/-- The characters of bytes; nothing for each piece that cannot be read. -/
def units (e : Shifting) (s : List UInt8) : List (Option Char) :=
  match e with
  | escapes sets hasShifts => run (escapeStep sets hasShifts) .start (s.map UInt8.toNat)
  | tildes => run tildeStep false (s.map UInt8.toNat)

/-- Japanese. -/
def japanese : Shifting :=
  escapes [.roman, .japanese false, .japanese true] false

/-- Japanese with the supplementary set. -/
def japaneseSupplemented : Shifting :=
  escapes [.japanese false, .supplementary, .roman, .japanese true] false

/-- Japanese, Korean, simplified Chinese, and letters of Europe. -/
def manyLanguages : Shifting :=
  escapes [.japanese false, .supplementary, .korean, .chinese, .roman, .japanese true, .latin,
    .greek] false

/-- Korean. -/
def korean : Shifting :=
  escapes [.korean] true

/-- The encodings with their names, the usual one first. -/
def names : List (Shifting × List String) := [
  (japanese, ["iso2022_jp", "csiso2022jp", "iso2022jp", "iso_2022_jp"]),
  (japaneseSupplemented, ["iso2022_jp_1", "iso2022jp_1", "iso_2022_jp_1"]),
  (escapes [.japanese false, .supplementary, .roman, .syllables, .japanese true] false,
    ["iso2022_jp_ext", "iso2022jp_ext", "iso_2022_jp_ext"]),
  (manyLanguages, ["iso2022_jp_2", "iso2022jp_2", "iso_2022_jp_2"]),
  (escapes [.japanese false, .firstPlane false, .secondPlane] false,
    ["iso2022_jp_3", "iso2022jp_3", "iso_2022_jp_3"]),
  (escapes [.japanese false, .firstPlane true, .secondPlane] false,
    ["iso2022_jp_2004", "iso2022jp_2004", "iso_2022_jp_2004"]),
  (korean, ["iso2022_kr", "csiso2022kr", "iso2022kr", "iso_2022_kr"]),
  (tildes, ["hz", "hzgb", "hz_gb", "hz_gb_2312"])]

/-- The encoding of a name. -/
def ofName? (name : String) : Option Shifting :=
  (names.find? fun n ↦ n.2.contains name).map Prod.fst

end Shifting

end TreePath.Text
