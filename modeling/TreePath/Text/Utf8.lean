import TreePath.Text.CodePoint
import TreePath.Text.Quoted

/-!
# Texts as bytes

A text is written in UTF-8 code point by code point. Halves of surrogate pairs have no place there,
so a text with one cannot be written (`utf8?`), and the complaint names the first of them and those
that follow it directly (`HalfRun`). In the names of files, the halves from `0xdc80` to `0xdcff`
stand for the bytes of their last two digits (`fileHalves?`).

A text is a list of characters, and a character cannot be half of a pair. Texts that came in with
halves have characters for them that stand for nothing else (`TreePath.Text.CodePoint`), and this is
where such a text is refused or, for the name of a file, turned into the bytes that it was made of.
-/

namespace TreePath.Text

/-- Halves in a row within a text. -/
structure HalfRun where
  /-- The place of the first. -/
  start : Nat
  /-- The halves. -/
  halves : List Nat
deriving DecidableEq, Repr

/-- The first halves in a row among code points, the first of which is at a place. -/
def halfRun? (place : Nat) : List Nat → Option HalfRun
  | [] => none
  | n :: rest =>
    if isHalf n then some ⟨place, n :: rest.takeWhile isHalf⟩ else halfRun? (place + 1) rest

/-- The complaint about halves. -/
def HalfRun.message (r : HalfRun) : String :=
  "'utf-8' codec can't encode " ++
    (match r.halves with
    | [n] =>
      "character '\\u" ++ String.ofList (hexDigits 4 n) ++ "' in position " ++ toString r.start
    | ns =>
      "characters in position " ++ toString r.start ++ "-" ++
        toString (r.start + ns.length - 1)) ++
    ": surrogates not allowed"

/-- The bytes of a text in UTF-8, or the halves that prevent it. -/
def utf8? (s : String) : Except HalfRun ByteArray :=
  let ns := points s.toList
  match halfRun? 0 ns with
  | some r => .error r
  | none => .ok (String.ofList (ns.map Char.ofNat)).toUTF8

/-! ### Names of files -/

/-- Whether a half stands for a byte. -/
def isByteHalf (n : Nat) : Bool :=
  0xdc80 ≤ n && n ≤ 0xdcff

/-- The first halves in a row among code points, the first of which is at a place, that do not all
stand for bytes. -/
def fileHalves? : Nat → Nat → List Nat → Option HalfRun
  | 0, _, _ => none
  | fuel + 1, place, ns =>
    match halfRun? place ns with
    | none => none
    | some r =>
      if r.halves.all isByteHalf then
        let next := r.start + r.halves.length
        fileHalves? fuel next (ns.drop (next - place))
      else some r

/-- How many bytes a code point has in the name of a file. -/
def byteCount (n : Nat) : Nat :=
  if n < 0x80 || isByteHalf n then 1 else if n < 0x800 then 2 else if n < 0x10000 then 3 else 4

/-- How many bytes a text has as the name of a file. -/
def byteLength (s : String) : Nat :=
  ((points s.toList).map byteCount).foldl (· + ·) 0

end TreePath.Text
