import TreePath.Step.Basic

/-!
# Steps in writing

The written form of a step names its kind and shows what it asks for. It is put together from lists
of characters, where what is written can be read back from the front: texts are quoted
(`TreePath.Text.Quoted`), so nothing inside them can be taken for punctuation.

Characters and not strings are joined, since whether something can be read back is a matter of what
the text begins with, and lists are taken apart from the front. The proof that no two plain steps
are written alike is in `TreePath.Proofs.Step.Writing`.
-/

namespace TreePath

/-- Written items, with a comma and a blank between them. -/
def listed (items : List (List Char)) : List Char :=
  List.intercalate [',', ' '] items

/-- Attributes as a mapping in braces. -/
def Attributes.chars (a : Attributes) : List Char :=
  '\x7b' ::
    (listed (a.entries.map fun e ↦ Text.quote e.1.toList ++ ':' :: ' ' :: Text.quote e.2.toList) ++
      ['\x7d'])

namespace Step

mutual

/-- The written form of a step, as characters. -/
def chars : Step → List Char
  | name s => "NameTest(".toList ++ (Text.quote s.toList ++ [')'])
  | attributes a => "AttributeTest(".toList ++ (a.chars ++ [')'])
  | predicate p => "PredicateTest(".toList ++ (p.text.toList ++ [')'])
  | all members => "Conjunction([".toList ++ (listed (charsOfAll members) ++ [']', ')'])
  | unknown _ => "Sibling()".toList

/-- The written forms of several steps. -/
def charsOfAll : List Step → List (List Char)
  | [] => []
  | s :: rest => chars s :: charsOfAll rest

end

/-- The written form of a step. -/
def text (s : Step) : String :=
  String.ofList s.chars

end Step

end TreePath
