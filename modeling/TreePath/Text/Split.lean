/-!
# Splitting a text

`split` cuts a text at every occurrence of a character. There is always one part more than there are
cuts, so the result is never empty (`splitChars_ne_nil`), and putting the character between the
parts gives the text back (`intercalate_splitChars`). Texts with the character between them have the
parts of all of them (`split_append`, `splitChars_intercalate`).

There is no cut that could be undone in two ways, so a text and its parts determine each other as
long as no part has the character in it. The lemmas say so in both directions; the keys of a
configuration and the names of a path are cut in this way.
-/

namespace TreePath.Text

/-- The parts between the occurrences of a character. -/
def splitChars (separator : Char) : List Char → List (List Char)
  | [] => [[]]
  | c :: rest =>
    if c = separator then [] :: splitChars separator rest
    else
      match splitChars separator rest with
      | [] => [[c]]
      | part :: parts => (c :: part) :: parts

/-- The parts of a text between the occurrences of a character. -/
def split (separator : Char) (s : String) : List String :=
  (splitChars separator s.toList).map String.ofList

/-- Splitting leaves one piece at least, be it empty. -/
theorem splitChars_ne_nil (separator : Char) (s : List Char) : splitChars separator s ≠ [] := by
  induction s with
  | nil => simp [splitChars]
  | cons c rest ih =>
    by_cases h : c = separator
    · simp [splitChars, h]
    · obtain ⟨part, parts, hs⟩ := List.exists_cons_of_ne_nil ih
      simp [splitChars, h, hs]

/-- Splitting a text leaves one piece at least. -/
theorem split_ne_nil (separator : Char) (s : String) : split separator s ≠ [] := by
  simp [split, splitChars_ne_nil]

/-- The pieces with the separator between them are what was split. -/
theorem intercalate_splitChars (separator : Char) (s : List Char) :
    [separator].intercalate (splitChars separator s) = s := by
  induction s with
  | nil => rfl
  | cons c rest ih =>
    obtain ⟨part, parts, hs⟩ := List.exists_cons_of_ne_nil (splitChars_ne_nil separator rest)
    by_cases h : c = separator
    · subst h
      rw [hs] at ih
      simp [splitChars, hs, List.intercalate, List.flatten_cons] at ih ⊢
      exact ih
    · rw [hs] at ih
      simp only [splitChars, h, if_false, hs]
      cases parts with
      | nil => simpa [List.intercalate, List.intersperse] using ih
      | cons q qs => simpa [List.intercalate, List.intersperse] using ih

/-- So are those of a text. -/
theorem intercalate_split (separator : Char) (s : String) :
    (String.singleton separator).intercalate (split separator s) = s := by
  refine String.toList_injective ?_
  rw [String.toList_intercalate, split, List.map_map]
  have hmap : (splitChars separator s.toList).map (String.toList ∘ String.ofList) =
      splitChars separator s.toList := by simp
  rw [hmap, String.toList_singleton, intercalate_splitChars]

/-- A text without the character is one part. -/
theorem splitChars_of_not_mem {separator : Char} {s : List Char} (h : separator ∉ s) :
    splitChars separator s = [s] := by
  induction s with
  | nil => rfl
  | cons c rest ih =>
    rw [List.mem_cons, not_or] at h
    rw [splitChars, if_neg (Ne.symm h.1), ih h.2]

/-- What is put together with the character between is split there. -/
theorem splitChars_append (separator : Char) (s t : List Char) :
    splitChars separator (s ++ separator :: t) =
      splitChars separator s ++ splitChars separator t := by
  induction s with
  | nil => simp [splitChars]
  | cons c rest ih =>
    by_cases h : c = separator
    · simp [splitChars, h, ih]
    · obtain ⟨part, parts, hs⟩ := List.exists_cons_of_ne_nil (splitChars_ne_nil separator rest)
      simp [splitChars, h, ih, hs]

/-- What several texts make with the character between them has the parts of all. -/
theorem splitChars_intercalate (separator : Char) {parts : List (List Char)} (hne : parts ≠ []) :
    splitChars separator ([separator].intercalate parts) =
      parts.flatMap (splitChars separator) := by
  induction parts with
  | nil => exact absurd rfl hne
  | cons part rest ih =>
    cases rest with
    | nil => simp [List.intercalate]
    | cons next more =>
      have hsplit : [separator].intercalate (part :: next :: more) =
          part ++ separator :: [separator].intercalate (next :: more) := by
        simp [List.intercalate, List.intersperse]
      rw [hsplit, splitChars_append, ih (List.cons_ne_nil _ _)]
      rfl

/-- A separator between two texts keeps their pieces apart. -/
theorem split_append (separator : Char) (s t : String) :
    split separator (s ++ String.singleton separator ++ t) =
      split separator s ++ split separator t := by
  have hlist : (s ++ String.singleton separator ++ t).toList =
      s.toList ++ separator :: t.toList := by simp
  rw [split, hlist, splitChars_append, List.map_append]
  rfl

/-- A text without the character is one part. -/
theorem split_of_not_mem {separator : Char} {s : String} (h : separator ∉ s.toList) :
    split separator s = [s] := by
  rw [split, splitChars_of_not_mem h, List.map_singleton, String.ofList_toList]

/-- What several texts make with the character between them has the parts of all. -/
theorem split_intercalate (separator : Char) {parts : List String} (hne : parts ≠ []) :
    split separator ((String.singleton separator).intercalate parts) =
      parts.flatMap (split separator) := by
  have hne' : parts.map String.toList ≠ [] := by simpa using hne
  rw [split, String.toList_intercalate, String.toList_singleton, splitChars_intercalate _ hne',
    List.flatMap_map, List.map_flatMap]
  rfl

end TreePath.Text
