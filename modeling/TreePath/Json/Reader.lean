import TreePath.Decimal.Reading
import TreePath.Decimal.Whole
import TreePath.Json.Value
import TreePath.Text.CodePoint

/-!
# Reading JSON

The grammar of JSON with the three names `NaN`, `Infinity` and `-Infinity` for numbers. A number
without point and exponent is whole, and has at most `Decimal.digitLimit` digits. Of two members of
an object with the same name the last counts, at the place of the first. Nothing but blanks may
follow the value.

Every reader takes characters off the front of a list and returns the rest. The reader of values
goes at most as deep as the text is long.

The depth is bounded by the text itself, so the bound is never reached, and what a reader comes to
does not depend on it: a value that is read with some depth to spare is read with any more. The
failure is the first in the text, which matters for numbers: too many digits are noticed when the
number has come to its end.
-/

namespace TreePath.Json

/-! ### Failures -/

/-- Why a text does not stand for a value. The failure that comes first in the text counts. -/
inductive ReadError where
  /-- The text does not follow the grammar. -/
  | malformed
  /-- A whole number has this many digits, which are too many. -/
  | tooLong (digits : Nat)
deriving DecidableEq, Repr

/-- The class under which a failure is raised. -/
def ReadError.kindName : ReadError → String
  | malformed => "JSONDecodeError"
  | tooLong _ => "ValueError"

/-- The wording of a failure. -/
def ReadError.message : ReadError → String
  | malformed => "<invalid JSON>"
  | tooLong digits => Decimal.limitComplaint (": value has " ++ toString digits ++ " digits")

/-! ### Leaves -/

/-- The blanks of JSON. -/
def isBlank (c : Char) : Bool :=
  c == ' ' || c == '\t' || c == '\n' || c == '\r'

/-- The text after its leading blanks. -/
def dropBlanks (s : List Char) : List Char :=
  s.dropWhile isBlank

/-- The text after a word that it starts with. -/
def dropWord? : List Char → List Char → Option (List Char)
  | [], rest => some rest
  | c :: word, d :: rest => if c == d then dropWord? word rest else none
  | _ :: _, [] => none

/-- An ASCII digit. -/
def isDigit (c : Char) : Bool :=
  '0' ≤ c && c ≤ '9'

/-- The number that ASCII digits spell. -/
def natOf (digits : List Char) : Nat :=
  digits.foldl (fun n c ↦ 10 * n + (c.toNat - 48)) 0

/-- The value of a hexadecimal digit. -/
def hexValue? (c : Char) : Option Nat :=
  if '0' ≤ c && c ≤ '9' then some (c.toNat - 48)
  else if 'a' ≤ c && c ≤ 'f' then some (c.toNat - 87)
  else if 'A' ≤ c && c ≤ 'F' then some (c.toNat - 55)
  else none

/-- Four hexadecimal digits. -/
def unit? : List Char → Option (Nat × List Char)
  | a :: b :: c :: d :: rest => do
    let a ← hexValue? a
    let b ← hexValue? b
    let c ← hexValue? c
    let d ← hexValue? d
    return (((a * 16 + b) * 16 + c) * 16 + d, rest)
  | _ => none

/-- The code point of a code unit, together with the unit after it if the two are a surrogate pair.
-/
def unitPoint (unit : Nat) (rest : List Char) : Nat × List Char :=
  if 0xd800 ≤ unit && unit < 0xdc00 then
    match rest with
    | '\\' :: 'u' :: rest' =>
      match unit? rest' with
      | some (low, rest'') =>
        if 0xdc00 ≤ low && low < 0xe000 then
          (0x10000 + (unit - 0xd800) * 0x400 + (low - 0xdc00), rest'')
        else (unit, rest)
      | none => (unit, rest)
    | _ => (unit, rest)
  else (unit, rest)

/-- The characters of a string up to its closing mark, put in front of those read before, which come
last first. -/
def stringBody? : Nat → List Char → List Char → Option (List Char × List Char)
  | 0, _, _ => none
  | _ + 1, _, [] => none
  | fuel + 1, read, c :: rest =>
    if c == '"' then some (read.reverse, rest)
    else if c == '\\' then
      match rest with
      | [] => none
      | e :: rest' =>
        if e == 'u' then
          match unit? rest' with
          | none => none
          | some (unit, rest'') =>
            -- the first half of a pair takes the second with it, if that comes next
            let (n, rest''') := unitPoint unit rest''
            stringBody? fuel ((Text.ofPoint n).reverse ++ read) rest'''
        else
          match "\"\\/bfnrt".toList.idxOf? e with
          | none => none
          | some k =>
            let ch := ['"', '\\', '/', '\x08', '\x0c', '\n', '\r', '\t'].getD k ' '
            stringBody? fuel (ch :: read) rest'
    else if c.toNat < 0x20 then none
    else stringBody? fuel (c :: read) rest

/-- A string, from after its opening mark. -/
def string? (s : List Char) : Option (List Char × List Char) :=
  stringBody? (s.length + 1) [] s

/-! ### Numbers -/

/-- A fraction: its digits, which may be missing altogether. -/
def fraction (s : List Char) : List Char × List Char :=
  match s with
  | '.' :: rest =>
    let digits := rest.takeWhile isDigit
    if digits.isEmpty then ([], s) else (digits, rest.dropWhile isDigit)
  | _ => ([], s)

/-- An exponent, if there is one. -/
def exponent (s : List Char) : Option Int × List Char :=
  match s with
  | e :: rest =>
    if e == 'e' || e == 'E' then
      let (negative, body) := match rest with
        | '-' :: r => (true, r)
        | '+' :: r => (false, r)
        | r => (false, r)
      let digits := body.takeWhile isDigit
      if digits.isEmpty then (none, s)
      else
        let n : Int := natOf digits
        (some (if negative then -n else n), body.dropWhile isDigit)
    else (none, s)
  | [] => (none, s)

/-- A number without its sign. -/
def magnitude (negative : Bool) (s : List Char) : Except ReadError (Json × List Char) :=
  let digits := s.takeWhile isDigit
  let whole := if digits.head? == some '0' then ['0'] else digits
  if whole.isEmpty then .error .malformed
  else
    let (places, rest) := fraction (s.drop whole.length)
    let (power, rest) := exponent rest
    if places.isEmpty && power.isNone then
      if Decimal.digitLimit < whole.length then .error (.tooLong whole.length)
      else
        let n : Int := natOf whole
        .ok (int (if negative then -n else n), rest)
    else
      let d : Decimal.Scanned :=
        ⟨negative, natOf (whole ++ places), power.getD 0 - places.length⟩
      .ok (float d.toFloat, rest)

/-! ### Values -/

/-- The words that stand for values. -/
def words : List (String × Json) := [
  ("null", null), ("true", bool true), ("false", bool false), ("NaN", float (0.0 / 0.0)),
  ("Infinity", float (1.0 / 0.0)), ("-Infinity", float (-(1.0 / 0.0)))]

/-- A word or a number at the front of a text. -/
def readPlain (s : List Char) : Except ReadError (Json × List Char) :=
  match words.findSome? fun w ↦ (dropWord? w.1.toList s).map fun rest ↦ (w.2, rest) with
  | some r => .ok r
  | none =>
    match s with
    | '-' :: rest => magnitude true rest
    | rest => magnitude false rest

mutual

/-- A value at the front of a text. -/
def readValue : Nat → List Char → Except ReadError (Json × List Char)
  | 0, _ => .error .malformed
  | fuel + 1, s =>
    match dropBlanks s with
    | '"' :: rest =>
      match string? rest with
      | some r => .ok (string (String.ofList r.1), r.2)
      | none => .error .malformed
    | '[' :: rest =>
      match dropBlanks rest with
      | ']' :: rest' => .ok (array [], rest')
      | rest' => (readItems fuel rest').map fun r ↦ (array r.1, r.2)
    | '\x7b' :: rest =>
      match dropBlanks rest with
      | '\x7d' :: rest' => .ok (object [], rest')
      | rest' => (readMembers fuel rest' []).map fun r ↦ (object r.1, r.2)
    | rest => readPlain rest

/-- The items of an array, from the first on. -/
def readItems : Nat → List Char → Except ReadError (List Json × List Char)
  | 0, _ => .error .malformed
  | fuel + 1, s =>
    match readValue fuel s with
    | .error e => .error e
    | .ok (v, rest) =>
      match dropBlanks rest with
      | ']' :: rest' => .ok ([v], rest')
      | ',' :: rest' => (readItems fuel rest').map fun r ↦ (v :: r.1, r.2)
      | _ => .error .malformed

/-- The members of an object, from the first on, added to those read before. -/
def readMembers : Nat → List Char → Entries Json → Except ReadError (Entries Json × List Char)
  | 0, _, _ => .error .malformed
  | fuel + 1, s, read =>
    match dropBlanks s with
    | '"' :: rest =>
      match string? rest with
      | none => .error .malformed
      | some (key, rest) =>
        match dropBlanks rest with
        | ':' :: rest =>
          match readValue fuel rest with
          | .error e => .error e
          | .ok (v, rest) =>
            -- of members with one name the last counts, in the place of the first
            let read := read.put (String.ofList key) v
            match dropBlanks rest with
            | '\x7d' :: rest' => .ok (read, rest')
            | ',' :: rest' => readMembers fuel rest' read
            | _ => .error .malformed
        | _ => .error .malformed
    | _ => .error .malformed

end

/-- The value that a text stands for. -/
def read (s : String) : Except ReadError Json :=
  let chars := s.toList
  match readValue (2 * chars.length + 2) chars with
  | .ok (v, rest) => if (dropBlanks rest).isEmpty then .ok v else .error .malformed
  | .error e => .error e

end TreePath.Json
