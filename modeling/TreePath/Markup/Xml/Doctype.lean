import TreePath.Markup.Xml.Basic
import TreePath.Markup.Source

/-!
# Document type declarations of XML

A document type declaration names the root element, may identify an outer part, and may hold
declarations of its own between brackets (`Subset`). Of these, comments and processing instructions
are strings of the source tree, and a declaration of attributes tells which values are made of words
and which there are where none is written (`Declared`). Of two declarations of one attribute the
first counts. A declaration of an entity is not understood: it ends the reading of the whole text.

What is declared is only used where the source tree shows it: for values that are made of words,
which lose their outer blanks, and for attributes that a tag does not have. The rest of the
declarations is read over.
-/

namespace TreePath.Markup.Xml

/-! ### What stands in front -/

/-- A quoted identifier and the text after it. -/
def identifier? (s : List Char) : Option (List Char × List Char) :=
  match dropSpace s with
  | q :: rest => if q == '"' || q == '\'' then upTo? [q] rest else none
  | [] => none

/-- A name, with the identifiers that follow it. -/
def doctypeText (name : List Char) (publicId systemId : Option (List Char)) : List Char :=
  let quoted (s : List Char) : List Char := '"' :: s ++ ['"']
  match publicId, systemId with
  | none, none => name
  | none, some s => name ++ " SYSTEM ".toList ++ quoted s
  | some p, none => name ++ " PUBLIC ".toList ++ quoted p
  | some p, some s => name ++ " PUBLIC ".toList ++ quoted p ++ [' '] ++ quoted s

/-- The text of a declaration, from after its keyword, and what is left from the bracket on. -/
def doctypeHead (s : List Char) : List Char × List Char :=
  let (name, rest) := (name? (dropSpace s)).getD ([], s)
  let rest := dropSpace rest
  let (publicId, systemId, rest) :=
    match after? "PUBLIC".toList rest with
    | some more =>
      match identifier? more with
      | none => (none, none, more)
      | some (p, more) =>
        match identifier? more with
        | none => (some p, none, more)
        | some (i, more) => (some p, some i, more)
    | none =>
      match (after? "SYSTEM".toList rest).bind identifier? with
      | none => (none, none, rest)
      | some (i, more) => (none, some i, more)
  (doctypeText name publicId systemId, dropSpace rest)

/-! ### What stands between the brackets -/

/-- A declared attribute. -/
structure Declared where
  /-- The name of the element that it belongs to. -/
  element : List Char
  /-- Its name. -/
  name : List Char
  /-- Whether its values are made of words. -/
  isWorded : Bool
  /-- The value that it has where none is written, if there is one. -/
  usual? : Option (List Char)
deriving DecidableEq, Repr

/-- What the declarations between the brackets tell. -/
structure Subset where
  /-- The comments and processing instructions, last first. -/
  strings : List (StringKind × List Char)
  /-- The declared attributes. -/
  declared : List Declared

/-- The text of a processing instruction: target, a blank, data. -/
def instructionText (s : List Char) : List Char :=
  let target := s.takeWhile fun c ↦ !isSpace c
  target ++ ' ' :: dropSpace (s.drop target.length)

/-- The text after the bracket that closes a declaration; brackets in quotes do not. -/
def afterDeclaration (mark : Option Char) : List Char → List Char
  | [] => []
  | c :: rest =>
    match mark with
    | some q => afterDeclaration (if c == q then none else mark) rest
    | none =>
      if c == '>' then rest
      else afterDeclaration (if c == '"' || c == '\'' then some c else none) rest

/-- The type of an attribute, whether it asks for words, and the text after it. -/
def attributeType (s : List Char) : Bool × List Char :=
  match s with
  | '(' :: _ => (true, (s.dropWhile (· != ')')).drop 1)
  | _ =>
    let word := s.takeWhile isNameChar
    let rest := dropSpace (s.drop word.length)
    if word == "NOTATION".toList then (true, (rest.dropWhile (· != ')')).drop 1)
    else (word != "CDATA".toList, rest)

/-- The value that an attribute has where none is written, and the text after it. -/
def usualValue (s : List Char) : Option (List Char) × List Char :=
  match (after? "#REQUIRED".toList s).or (after? "#IMPLIED".toList s) with
  | some rest => (none, rest)
  | none =>
    match dropSpace ((after? "#FIXED".toList s).getD s) with
    | [] => (none, [])
    | q :: rest =>
      if q == '"' || q == '\'' then value q (rest.length + 1) rest else (none, q :: rest)

/-- The attributes in a declaration of attributes, from after the name of the element. -/
def declaredIn (element : List Char) : Nat → List Char → List Declared
  | 0, _ => []
  | fuel + 1, s =>
    match name? (dropSpace s) with
    | none => []
    | some (name, rest) =>
      let (isWorded, rest) := attributeType (dropSpace rest)
      let (usual, rest) := usualValue (dropSpace rest)
      let usual := if isWorded then usual.map squeeze else usual
      ⟨element, name, isWorded, usual⟩ :: declaredIn element fuel rest

/-- Adds declared attributes to others; one that is there already stays as it is. -/
def addDeclared (known added : List Declared) : List Declared :=
  added.foldl (fun known d ↦
    if known.any fun k ↦ k.element == d.element && k.name == d.name then known
    else known ++ [d]) known

/-- The declarations up to the closing bracket, and the text after it; no text if the reading ends
there. -/
def subset : Nat → Subset → List Char → Subset × Option (List Char)
  | 0, d, _ => (d, none)
  | fuel + 1, d, s =>
    match dropSpace s with
    | ']' :: rest => (d, some (dropSpace rest))
    | '%' :: rest =>
      match name? rest with
      | some (_, ';' :: rest) => subset fuel d rest
      | _ => (d, none)
    | '<' :: '?' :: rest =>
      match upTo? "?>".toList rest with
      | some (text, rest) =>
        subset fuel { d with strings := (.xmlInstruction, instructionText text) :: d.strings } rest
      | none => (d, none)
    | '<' :: '!' :: '-' :: '-' :: rest =>
      match upTo? "-->".toList rest with
      | some (text, rest) => subset fuel { d with strings := (.comment, text) :: d.strings } rest
      | none => (d, none)
    | '<' :: '!' :: rest =>
      if (after? "ENTITY".toList rest).isSome then (d, none)
      else
        let after := afterDeclaration none rest
        match (after? "ATTLIST".toList rest).bind fun s ↦ name? (dropSpace s) with
        | some (element, s) =>
          let found := declaredIn element (s.length + 1) s
          subset fuel { d with declared := addDeclared d.declared found } after
        | none => subset fuel d after
    | _ => (d, none)

end TreePath.Markup.Xml
