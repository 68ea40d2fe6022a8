import TreePath.Decimal.Notation
import TreePath.Literal.Basic
import TreePath.Text.CodePoint

/-!
# Literals by directives

A directive says how a literal is to be written: its letter whether as a text, a whole number or a
fraction, and in which base or notation; the rest how it is cut off, signed and filled up. A literal
that does not suit the letter is refused.

Every number is written in three parts, sign, mark of the base and digits, and `Directive.padded`
puts the filling in its place: blanks in front of all three, zeros in front of the digits.

What suits which letter is looked at before how wide the result should be. Any literal has a text,
if it can be written; only numbers have a whole part and a fraction, truth values included, and only
a text of one character, or a number, is a character.
-/

namespace TreePath

/-- Why a directive does not apply to a literal. -/
inductive DirectiveError where
  /-- A letter for whole numbers, and a value of this class. -/
  | notANumber (letter : Char) (typeName : String)
  /-- A letter for whole numbers that fractions do not suit either, and a value of this class. -/
  | notAnInteger (letter : Char) (typeName : String)
  /-- A letter for fractions, and a value of this class. -/
  | notReal (typeName : String)
  /-- The letter for characters, and anything else. -/
  | notACharacter
  /-- The letter for characters, and the number of none. -/
  | noSuchCharacter
  /-- A letter for fractions, and too large a number. -/
  | tooLarge
  /-- A letter for whole numbers, and an infinity. -/
  | infinite
  /-- A letter for whole numbers, and a value that is not a number. -/
  | undefined
  /-- No letter of a directive, at this place of the template. -/
  | unknownLetter (letter : Nat) (place : Nat)
deriving DecidableEq, Repr

namespace DirectiveError

/-- The class under which a refusal is raised. -/
def kindName : DirectiveError → String
  | notANumber .. | notAnInteger .. | notReal _ | notACharacter => "TypeError"
  | noSuchCharacter | tooLarge | infinite => "OverflowError"
  | undefined | unknownLetter .. => "ValueError"

/-- The wording of a refusal. -/
def message : DirectiveError → String
  | notANumber letter typeName =>
    "%" ++ letter.toString ++ " format: a real number is required, not " ++ typeName
  | notAnInteger letter typeName =>
    "%" ++ letter.toString ++ " format: an integer is required, not " ++ typeName
  | notReal typeName => "must be real number, not " ++ typeName
  | notACharacter => "%c requires int or char"
  | noSuchCharacter => "%c arg not in range(0x110000)"
  | tooLarge => "int too large to convert to float"
  | infinite => "cannot convert float infinity to integer"
  | undefined => "cannot convert float NaN to integer"
  | unknownLetter letter place =>
    let shown := if 31 ≤ letter && letter ≤ 126 then Char.ofNat letter else '?'
    "unsupported format character '" ++ shown.toString ++ "' (0x" ++
      String.ofList (Nat.toDigits 16 letter) ++ ") at index " ++ toString place

end DirectiveError

/-- How a literal is to be written. -/
structure Directive where
  /-- Whether the filling stands on the right. -/
  left : Bool
  /-- Whether a number that is not negative has a plus sign. -/
  plus : Bool
  /-- Whether a number without a sign has a blank for it. -/
  blank : Bool
  /-- Whether the base is marked, and points and zeros are kept. -/
  alternate : Bool
  /-- Whether numbers are filled up with zeros. -/
  zeros : Bool
  /-- The least width. -/
  width : Nat
  /-- The number of places, of digits, or of characters at most. -/
  precision : Option Nat
  /-- The letter. -/
  letter : Char
  /-- The place of the letter in the template. -/
  place : Nat
deriving DecidableEq, Repr

namespace Directive

/-- The three parts of a number, filled up. -/
def padded (d : Directive) (sign mark digits : List Char) : List Char :=
  let missing := d.width - (sign.length + mark.length + Text.size digits)
  if d.left then sign ++ mark ++ digits ++ List.replicate missing ' '
  else if d.zeros then sign ++ mark ++ List.replicate missing '0' ++ digits
  else List.replicate missing ' ' ++ sign ++ mark ++ digits

/-- A text, cut off and filled up. -/
def textual (d : Directive) (s : List Char) : List Char :=
  ({ d with zeros := false } : Directive).padded [] []
    (match d.precision with
    | some n => Text.front n s
    | none => s)

/-- The sign that a number shows. -/
def sign (d : Directive) (negative : Bool) : List Char :=
  if negative then ['-'] else if d.plus then ['+'] else if d.blank then [' '] else []

/-- A whole number in a base, with at least as many digits as are asked for. -/
def whole (d : Directive) (base : Nat) (mark : String) (capitals : Bool) (n : Int) : List Char :=
  let digits := Nat.toDigits base n.natAbs
  let digits := List.replicate (d.precision.getD 0 - digits.length) '0' ++ digits
  d.padded (d.sign (n < 0)) (if d.alternate then mark.toList else [])
    (if capitals then digits.map Char.toUpper else digits)

/-- The whole part of a number. -/
def wholePart (d : Directive) : Literal → Except DirectiveError Int
  | .int i => .ok i
  | .bool b => .ok (if b then 1 else 0)
  | .float x =>
    match Decimal.Binary.ofFloat x with
    | .nan => .error .undefined
    | .infinite _ => .error .infinite
    | .finite negative mantissa exponent =>
      let f := Decimal.Binary.fraction mantissa exponent
      .ok (if negative then -((f.1 / f.2 : Nat) : Int) else (f.1 / f.2 : Nat))
  | v => .error (.notANumber d.letter v.typeName)

/-- A literal that is a whole number. -/
def integer (d : Directive) : Literal → Except DirectiveError Int
  | .int i => .ok i
  | .bool b => .ok (if b then 1 else 0)
  | v => .error (.notAnInteger d.letter v.typeName)

/-- The number nearest to a literal. -/
def real : Literal → Except DirectiveError Decimal.Binary
  | .float x => .ok (.ofFloat x)
  | .int i =>
    match Decimal.Binary.ofFloat (Float.ofInt i) with
    | .infinite _ => .error .tooLarge
    | b => .ok b
  | .bool b => .ok (.ofFloat (if b then 1.0 else 0.0))
  | v => .error (.notReal v.typeName)

/-- The magnitude of a finite number in the notation of the letter. -/
def fractionText (d : Directive) (num den : Nat) : List Char :=
  let digits := d.precision.getD 6
  match d.letter.toLower with
  | 'e' => Decimal.scientificText d.alternate digits num den
  | 'f' => Decimal.fixedText d.alternate digits num den
  | _ => Decimal.generalText d.alternate digits num den

/-- A number in the notation of the letter. -/
def fractional (d : Directive) (b : Decimal.Binary) : List Char :=
  let (negative, text) := match b with
    | .nan => (false, "nan".toList)
    | .infinite negative => (negative, "inf".toList)
    | .finite negative mantissa exponent =>
      let f := Decimal.Binary.fraction mantissa exponent
      (negative, d.fractionText f.1 f.2)
  d.padded (d.sign negative) [] (if d.letter.isUpper then text.map Char.toUpper else text)

/-- The code point that a literal is or has the number of. -/
def character : Literal → Except DirectiveError Nat
  | .text s =>
    match Text.points s.toList with
    | [n] => .ok n
    | _ => .error .notACharacter
  | .int i => if 0 ≤ i && i < 0x110000 then .ok i.toNat else .error .noSuchCharacter
  | .bool b => .ok b.toNat
  | _ => .error .notACharacter

/-- Characters with those outside ASCII by their numbers. -/
def asciiText (s : List Char) : List Char :=
  s.flatMap fun c ↦
    if c.toNat < 0x80 then [c]
    else if c.toNat < 0x100 then '\\' :: 'x' :: Text.hexDigits 2 c.toNat
    else if c.toNat < 0x10000 then '\\' :: 'u' :: Text.hexDigits 4 c.toNat
    else '\\' :: 'U' :: Text.hexDigits 8 c.toNat

/-- A literal as the directive says. -/
def write (d : Directive) (v : Literal) : Except DirectiveError (List Char) :=
  match d.letter with
  | 's' =>
    match v with
    | .text s => .ok (d.textual s.toList)
    | v => .ok (d.textual v.chars)
  | 'r' => .ok (d.textual v.chars)
  | 'a' => .ok (d.textual (asciiText v.chars))
  | 'd' | 'i' | 'u' => (d.wholePart v).map (d.whole 10 "" false)
  | 'o' => (d.integer v).map (d.whole 8 "0o" false)
  | 'x' => (d.integer v).map (d.whole 16 "0x" false)
  | 'X' => (d.integer v).map (d.whole 16 "0X" true)
  | 'e' | 'E' | 'f' | 'F' | 'g' | 'G' => (real v).map d.fractional
  | 'c' =>
    (character v).map fun n ↦ ({ d with precision := none } : Directive).textual (Text.ofPoint n)
  | letter => .error (.unknownLetter letter.toNat d.place)

end Directive

end TreePath
