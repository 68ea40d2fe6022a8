import TreePath.Calendar
import TreePath.Text.CodePoint
import TreePath.Text.UpperCase

/-!
# Moments by patterns

A pattern is a text with marks in it. A mark is a percent sign and a letter for a part of the
moment, and between the two may stand flags, a width, and one of the modifiers `E` and `O`: `%d` is
the day of the month with two digits, `%-d` the same without a leading zero, `%^A` the day of the
week in capital letters, `%5Y` the year with five digits. What looks like a mark but is none stands
for itself.

Names are English ones, and moments are those of universal time. There is a limit to what a pattern
can be filled in with, which grows with the pattern (`Moment.room`); if that is too little, the
result is the empty text.
-/

namespace TreePath

/-! ### Marks -/

/-- A mark of a pattern. -/
structure TimeMark where
  /-- The mark as it is written. -/
  written : List Char
  /-- The flag for padding that counts: zeros, blanks or none. -/
  pad : Option Char
  /-- Whether capital letters are asked for. -/
  upper : Bool
  /-- Whether the other case is asked for. -/
  swap : Bool
  /-- The least width, zero if none is given. -/
  width : Nat
  /-- The modifier. -/
  modifier : Option Char
  /-- The letter; nothing if the pattern ends before it. -/
  letter : Option Char

namespace TimeMark

/-- The flags at the front of a text, in order, and the text after them. -/
def flags (s : List Char) : List Char × List Char :=
  let isFlag (c : Char) : Bool := "_-0^#".toList.contains c
  (s.takeWhile isFlag, s.dropWhile isFlag)

/-- The mark that starts after a percent sign, and the text after it. -/
def ofText (s : List Char) : TimeMark × List Char :=
  let (flags, rest) := flags s
  let digits := rest.takeWhile Char.isDigit
  let rest := rest.dropWhile Char.isDigit
  let (modifier, rest) := match rest with
    | 'E' :: r => (some 'E', r)
    | 'O' :: r => (some 'O', r)
    | r => (none, r)
  let after := rest.drop (if rest.head? = some Text.pointMark then 2 else 1)
  (⟨'%' :: s.take (s.length - after.length),
    flags.reverse.find? fun c ↦ "_-0".toList.contains c, flags.contains '^', flags.contains '#',
    digits.foldl (fun n c ↦ 10 * n + (c.toNat - 48)) 0, modifier, rest.head?⟩, after)

/-- A text filled up on its left. -/
def fillUp (c : Char) (width : Nat) (s : List Char) : List Char :=
  List.replicate (width - Text.size s) c ++ s

/-- A word, filled up to the width of the mark. -/
def word (k : TimeMark) (s : String) : List Char :=
  fillUp (if k.pad == some '0' then '0' else ' ') k.width s.toList

/-- A number with at least so many digits, filled up as the mark asks for. -/
def number (k : TimeMark) (digits : Nat) (n : Int) : List Char :=
  let s := (toString n).toList
  match k.pad with
  | some '-' => fillUp ' ' k.width s
  | some '_' => fillUp ' ' (max digits k.width) s
  | _ => fillUp '0' (max digits k.width) s

/-- A number with blanks for leading zeros, unless the mark asks for something else. -/
def numberAfterBlanks (k : TimeMark) (digits : Nat) (n : Int) : List Char :=
  ({ k with pad := some (k.pad.getD '_') } : TimeMark).number digits n

/-- A word that is written in capital letters if that is asked for. -/
def text (k : TimeMark) (s : String) : List Char :=
  k.word (if k.upper then s.map Text.upperChar else s)

/-- A name, whose other case is that of capital letters. -/
def name (k : TimeMark) (s : String) : List Char :=
  k.word (if k.upper || k.swap then s.map Char.toUpper else s)

/-- A name in capital letters, whose other case is that of small letters. -/
def capitals (k : TimeMark) (s : String) : List Char :=
  k.word (if k.swap then s.map Char.toLower else s)

/-- The letters that go without the modifier `E`. -/
def withoutEra : List Char := "abdeghjklmwABDFGHIMSUVW".toList

/-- The letters that go without the modifier `O`. -/
def withoutAlternative : List Char := "acxADFXY".toList

/-- Whether a letter goes with the modifier of the mark. -/
def accepts (k : TimeMark) (letter : Char) : Bool :=
  match k.modifier with
  | some 'E' => !withoutEra.contains letter
  | some _ => !withoutAlternative.contains letter
  | none => true

end TimeMark

/-! ### Parts of a moment -/

namespace Moment

/-- The hour of half a day, from one to twelve. -/
def halfHour (m : Moment) : Nat :=
  if m.hour % 12 == 0 then 12 else m.hour % 12

/-- The half of the day. -/
def half (m : Moment) : String :=
  if m.hour < 12 then "AM" else "PM"

/-- The day in the short form with two digits each. -/
def shortDate (m : Moment) : String :=
  paddedNumber 2 m.date.month ++ "/" ++ paddedNumber 2 m.date.day ++ "/" ++
    paddedNumber 2 (m.date.year % 100)

/-- The first three characters of a name. -/
def brief (name : String) : String :=
  String.ofList (name.toList.take 3)

/-- Day and time in full. -/
def fullText (m : Moment) : String :=
  brief m.date.weekdayName ++ " " ++ brief m.date.monthName ++ " " ++
    String.ofList (TimeMark.fillUp ' ' 2 (toString m.date.day).toList) ++ " " ++ m.clockText ++
    " " ++ toString m.date.year

/-- How many seconds lie between the first moment of 1970 and a moment. -/
def secondsSinceEpoch (m : Moment) : Int :=
  m.date.daysSinceEpoch * 86400 + (m.hour * 3600 + m.minute * 60 + m.second : Nat)

/-- What a mark with a letter stands for, if it stands for anything. -/
def part? (m : Moment) (k : TimeMark) (letter : Char) : Option (List Char) :=
  let d := m.date
  match letter with
  | '%' => some (k.word "%")
  | 'n' => some (k.word "\n")
  | 't' => some (k.word "\t")
  | 'a' => some (k.name (brief d.weekdayName))
  | 'A' => some (k.name d.weekdayName)
  | 'b' | 'h' => some (k.name (brief d.monthName))
  | 'B' => some (k.name d.monthName)
  | 'c' => some (k.text m.fullText)
  | 'x' | 'D' => some (k.text m.shortDate)
  | 'X' | 'T' => some (k.text m.clockText)
  | 'R' => some (k.text (paddedNumber 2 m.hour ++ ":" ++ paddedNumber 2 m.minute))
  | 'r' =>
    some (k.text (paddedNumber 2 m.halfHour ++ ":" ++ paddedNumber 2 m.minute ++ ":" ++
      paddedNumber 2 m.second ++ " " ++ m.half))
  | 'F' => some (k.text d.text)
  | 'p' => some (k.capitals m.half)
  | 'P' => some (k.word (m.half.map Char.toLower))
  | 'Z' => some (if k.pad == some '-' then "UTC".toList else k.word "UTC")
  | 'z' => some (k.word "+" ++ k.number 4 0)
  | 'C' => some (k.number 1 (d.year / 100))
  | 'Y' => some (k.number 1 d.year)
  | 'y' => some (k.number 2 (d.year % 100))
  | 'G' => some (k.number 1 d.isoWeek.1)
  | 'g' => some (k.number 2 (d.isoWeek.1 % 100))
  | 'V' => some (k.number 2 d.isoWeek.2)
  | 'U' => some (k.number 2 d.weekFromSunday)
  | 'W' => some (k.number 2 d.weekFromMonday)
  | 'u' => some (k.number 1 d.isoWeekday)
  | 'w' => some (k.number 1 d.weekday)
  | 'm' => some (k.number 2 d.month)
  | 'd' => some (k.number 2 d.day)
  | 'e' => some (k.numberAfterBlanks 2 d.day)
  | 'j' => some (k.number 3 (d.dayOfYear + 1))
  | 'H' => some (k.number 2 m.hour)
  | 'I' => some (k.number 2 m.halfHour)
  | 'k' => some (k.numberAfterBlanks 2 m.hour)
  | 'l' => some (k.numberAfterBlanks 2 m.halfHour)
  | 'M' => some (k.number 2 m.minute)
  | 'S' => some (k.number 2 m.second)
  | 's' => some (k.word (toString m.secondsSinceEpoch))
  | _ => none

/-- What a mark stands for. A mark that means nothing stands for itself, in capital letters if they
are asked for, as they are by the other case of the name of a month. -/
def marked (m : Moment) (k : TimeMark) : List Char :=
  let found := (k.letter.filter k.accepts).bind (m.part? k)
  let swapped := k.swap && (k.letter == some 'b' || k.letter == some 'h')
  found.getD (({ k with upper := k.upper || swapped } : TimeMark).text (String.ofList k.written))

/-- A pattern with the parts of a moment filled in, where no width counts beyond a limit. Every mark
takes at least one character, so a fuel of the number of characters is enough. -/
def fill (m : Moment) (limit : Nat) : Nat → List Char → List Char
  | 0, _ => []
  | _ + 1, [] => []
  | fuel + 1, '%' :: rest =>
    let (k, rest) := TimeMark.ofText rest
    m.marked { k with width := min k.width limit } ++ m.fill limit fuel rest
  | fuel + 1, c :: rest => c :: m.fill limit fuel rest

/-- The first of some doublings of a number that is no less than another. -/
def doubled (least : Nat) : Nat → Nat → Nat
  | 0, n => n
  | fuel + 1, n => if least ≤ n then n else doubled least fuel (2 * n)

/-- How many characters there is room for, the end counted as one. -/
def room (pattern : String) : Nat :=
  let least := 256 * Text.size pattern.toList
  doubled least least 1024

/-- A moment in writing, by a pattern. -/
def format (m : Moment) (pattern : String) : String :=
  let text := m.fill (room pattern) pattern.length pattern.toList
  if room pattern ≤ Text.size text then "" else String.ofList text

end Moment

end TreePath
