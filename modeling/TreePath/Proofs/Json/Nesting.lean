import Mathlib.Data.List.TakeWhile
import TreePath.Proofs.Json.Restoring

/-!
# Arrays and objects that are open

How many arrays and objects of a text are open can be told without reading it: brackets and braces
are counted from the left, except for those in strings, and where strings begin and end can be told
from the quotation marks and the escapes (`Nesting.next`). A text that stands for a value closes
what it opens (`after_of_read`). So a text in which something is still open stands for nothing,
whatever it looks like otherwise; that is all that has to be known of a text that was cut off
(`TreePath.Proofs.Json.Interrupted`).

The readers take characters off the front of a text and leave the rest. What each of them takes
leads from one place of a text to another, and changes no depth on the way (`Takes`): strings lead
from inside of a string to outside of it, everything else from outside to outside. The relation is
transitive, so that the proofs go along the readers, step by step, and a step is a character, a
stretch of characters of one kind (`takes_dropWhile`), or a reader that was dealt with before. Only
the brackets and braces themselves are paired up (`takes_between`). The readers of items and members
take the closing mark too, but its opening mark was taken by the reader of values; hence the two
fields of `TakesValues` that say what stands before that mark.
-/

namespace TreePath

namespace Json

/-! ### Depth and place -/

/-- Where in a text one is. -/
inductive Place where
  /-- Between the strings. -/
  | outside
  /-- Inside of a string. -/
  | inside
  /-- Inside of a string, behind the mark of an escape. -/
  | escaped

/-- What can be told of a text by its marks. -/
structure Nesting where
  /-- How many arrays and objects are open. -/
  depth : Int
  /-- Where the text ends. -/
  place : Place

namespace Nesting

/-- The nesting after one more character. -/
def next (n : Nesting) (c : Char) : Nesting :=
  match n.place with
  | .outside =>
    if c = '"' then ⟨n.depth, .inside⟩
    else if c = '[' ∨ c = '\x7b' then ⟨n.depth + 1, .outside⟩
    else if c = ']' ∨ c = '\x7d' then ⟨n.depth - 1, .outside⟩
    else n
  | .inside =>
    if c = '"' then ⟨n.depth, .outside⟩
    else if c = '\\' then ⟨n.depth, .escaped⟩
    else n
  | .escaped => ⟨n.depth, .inside⟩

/-- The nesting after some more text. -/
def after (n : Nesting) (x : List Char) : Nesting :=
  x.foldl next n

/-- The nesting of a text goes on from where its first part ends. -/
theorem after_append (n : Nesting) (x y : List Char) : n.after (x ++ y) = (n.after x).after y :=
  List.foldl_append

/-- The nesting of a text with nothing in it. -/
def start : Nesting := ⟨0, .outside⟩

end Nesting

/-- A text leads from one place to another, and leaves open as much as there was open before it. -/
def Leads (p q : Place) (x : List Char) : Prop :=
  ∀ depth, Nesting.after ⟨depth, p⟩ x = ⟨depth, q⟩

section Leads

variable {p q r : Place} {x y : List Char}

theorem leads_nil (p : Place) : Leads p p [] :=
  fun _ ↦ rfl

/-- Texts one after the other lead from place to place. -/
theorem Leads.append (h : Leads p q x) (h' : Leads q r y) : Leads p r (x ++ y) := by
  intro depth
  rw [Nesting.after_append, h depth, h' depth]

/-- A character that no mark is, outside of strings. -/
theorem leads_outside {c : Char} (h : c ∉ structural) : Leads .outside .outside [c] := by
  intro depth
  simp only [structural, List.mem_cons, List.not_mem_nil, or_false, not_or] at h
  simp [Nesting.after, Nesting.next, h]

/-- A character of a string that neither ends it nor begins an escape. -/
theorem leads_inside {c : Char} (hquote : c ≠ '"') (hescape : c ≠ '\\') :
    Leads .inside .inside [c] := by
  intro depth
  simp [Nesting.after, Nesting.next, hquote, hescape]

/-- If each character stays in a place, all of them do. -/
theorem leads_of_forall (h : ∀ c ∈ x, Leads p p [c]) : Leads p p x := by
  induction x with
  | nil => exact leads_nil p
  | cons c x ih =>
    obtain ⟨hc, hx⟩ := List.forall_mem_cons.1 h
    exact hc.append (ih hx)

/-- Text without marks, outside of strings. -/
theorem leads_of_not_structural (h : ∀ c ∈ x, c ∉ structural) : Leads .outside .outside x :=
  leads_of_forall fun c hc ↦ leads_outside (h c hc)

/-- Whether a text has marks can be computed. -/
theorem not_mem_structural_of_all (h : x.all (fun c ↦ !structural.contains c) = true) :
    ∀ c ∈ x, c ∉ structural := by
  simpa using h

/-- The characters of a kind are no marks if no mark is of that kind. -/
theorem not_mem_structural {f : Char → Bool} (hf : structural.all (fun c ↦ !f c) = true) {c : Char}
    (h : f c = true) : c ∉ structural := by
  intro hc
  have hnot := List.all_eq_true.1 hf c hc
  rw [h] at hnot
  cases hnot

end Leads

/-! ### Readers -/

/-- A reader that leaves the end of a text takes what leads from one place to another. -/
def Takes (p q : Place) (s rest : List Char) : Prop :=
  ∃ x, s = x ++ rest ∧ Leads p q x

section Takes

variable {p q r : Place} {s t rest : List Char}

theorem Takes.refl (p : Place) (s : List Char) : Takes p p s s :=
  ⟨[], rfl, leads_nil p⟩

/-- A reader that goes on where another one ended takes what both take. -/
theorem Takes.trans (h : Takes p q s t) (h' : Takes q r t rest) : Takes p r s rest := by
  obtain ⟨x, rfl, hx⟩ := h
  obtain ⟨y, rfl, hy⟩ := h'
  exact ⟨x ++ y, (List.append_assoc ..).symm, hx.append hy⟩

theorem takes_cons {c : Char} (h : Leads p q [c]) (s : List Char) : Takes p q (c :: s) s :=
  ⟨[c], rfl, h⟩

/-- A character that is no mark, outside of strings. -/
theorem takes_outside {c : Char} (h : c ∉ structural) (s : List Char) :
    Takes .outside .outside (c :: s) s :=
  takes_cons (leads_outside h) s

/-- Some of the characters of a kind that a text begins with. -/
theorem takes_drop {f : Char → Bool} (hf : structural.all (fun c ↦ !f c) = true) {n : Nat}
    (hn : n ≤ (s.takeWhile f).length) : Takes .outside .outside s (s.drop n) := by
  refine ⟨s.take n, (List.take_append_drop n s).symm, leads_of_not_structural fun c hc ↦ ?_⟩
  have hfront : s.take n <+: s.takeWhile f :=
    List.prefix_of_prefix_length_le (List.take_prefix n s) (List.takeWhile_prefix f)
      ((List.length_take_le n s).trans hn)
  exact not_mem_structural hf (List.mem_takeWhile_imp (hfront.subset hc))

/-- All of them. -/
theorem takes_dropWhile {f : Char → Bool} (hf : structural.all (fun c ↦ !f c) = true)
    (s : List Char) : Takes .outside .outside s (s.dropWhile f) :=
  ⟨s.takeWhile f, List.takeWhile_append_dropWhile.symm, leads_of_not_structural fun _ hc ↦
    not_mem_structural hf (List.mem_takeWhile_imp hc)⟩

/-- Blanks are skipped, and they are no marks. -/
theorem takes_dropBlanks (s : List Char) : Takes .outside .outside s (dropBlanks s) :=
  takes_dropWhile (by decide) s

/-- An opening mark and its closing mark, with what is between them. -/
theorem takes_between {a b : Char} (ha : ∀ d, Nesting.next ⟨d, .outside⟩ a = ⟨d + 1, .outside⟩)
    (hb : ∀ d, Nesting.next ⟨d, .outside⟩ b = ⟨d - 1, .outside⟩)
    (h : Takes .outside .outside s (b :: rest)) : Takes .outside .outside (a :: s) rest := by
  obtain ⟨x, rfl, hx⟩ := h
  refine ⟨a :: (x ++ [b]), by simp, fun depth ↦ ?_⟩
  show Nesting.after (Nesting.next ⟨depth, .outside⟩ a) (x ++ [b]) = _
  rw [ha, Nesting.after_append, hx]
  exact (hb (depth + 1)).trans (by rw [Int.add_sub_cancel])

/-! ### Strings -/

/-- The digits of an escape stay inside of the string. -/
theorem takes_of_unit? {n : Nat} (h : unit? s = some (n, rest)) : Takes .inside .inside s rest := by
  rw [unit?.eq_def] at h
  split at h
  · next a b c d rest' =>
    simp only [Option.bind_eq_bind, Option.bind_eq_some_iff] at h
    obtain ⟨_, ha, _, hb, _, hc, _, hd, heq⟩ := h
    cases heq
    -- a hexadecimal digit neither ends a string nor begins an escape
    have hdigit {c : Char} {n : Nat} (hc : hexValue? c = some n) : Leads .inside .inside [c] := by
      refine leads_inside ?_ ?_ <;> rintro rfl <;> cases hc
    refine ⟨[a, b, c, d], rfl, leads_of_forall fun c hmem ↦ ?_⟩
    simp only [List.mem_cons, List.not_mem_nil, or_false] at hmem
    rcases hmem with rfl | rfl | rfl | rfl
    exacts [hdigit ha, hdigit hb, hdigit hc, hdigit hd]
  · cases h

/-- The mark of an escape and the character after it. -/
theorem takes_escape (c : Char) (s : List Char) : Takes .inside .inside ('\\' :: c :: s) s :=
  ⟨['\\', c], rfl, fun _ ↦ rfl⟩

/-- So does the second escape of a pair, if one is taken with the first. -/
theorem takes_unitPoint (unit : Nat) (s : List Char) :
    Takes .inside .inside s (unitPoint unit s).2 := by
  rw [unitPoint.eq_def]
  split
  · split
    · split
      · next hunit =>
        split
        · exact (takes_escape 'u' _).trans (takes_of_unit? hunit)
        · exact .refl ..
      · exact .refl ..
    · exact .refl ..
  · exact .refl ..

/-- The end of a string is where its reader stops. -/
theorem takes_of_stringBody? {fuel : Nat} {read x : List Char}
    (h : stringBody? fuel read s = some (x, rest)) : Takes .inside .outside s rest := by
  induction fuel generalizing read s with
  | zero => simp [stringBody?] at h
  | succ fuel ih =>
    cases s with
    | nil => simp [stringBody?] at h
    | cons c s =>
      rw [stringBody?.eq_def] at h
      simp only [beq_iff_eq] at h
      split at h
      · next hquote =>
        cases h
        subst hquote
        exact takes_cons (fun _ ↦ rfl) _
      · next hquote =>
        split at h
        · next hescape =>
          subst hescape
          split at h
          · cases h
          · next e s' =>
            refine (takes_escape e s').trans ?_
            split at h
            · split at h
              · cases h
              · next unit s'' hunit =>
                exact (takes_of_unit? hunit).trans ((takes_unitPoint unit s'').trans (ih h))
            · split at h
              · cases h
              · exact ih h
        · next hescape =>
          split at h
          · cases h
          · exact (takes_cons (leads_inside hquote hescape) s).trans (ih h)

/-- A string, with its opening mark. -/
theorem takes_of_string? {x : List Char} (h : string? s = some (x, rest)) :
    Takes .outside .outside ('"' :: s) rest :=
  (takes_cons (q := .inside) (fun _ ↦ rfl) s).trans (takes_of_stringBody? h)

/-! ### Numbers and words -/

/-- A fraction has no marks in it. -/
theorem takes_fraction (s : List Char) : Takes .outside .outside s (fraction s).2 := by
  rw [fraction.eq_def]
  split
  · simp only
    split
    · exact .refl ..
    · exact (takes_outside (by decide) _).trans (takes_dropWhile (by decide) _)
  · exact .refl ..

/-- Nor has an exponent. -/
theorem takes_exponent (s : List Char) : Takes .outside .outside s (exponent s).2 := by
  rw [exponent.eq_def]
  split
  · next e rest =>
    split
    · next hmark =>
      split
      next negative body hbody =>
      have he : e ∉ structural := not_mem_structural (f := fun e ↦ e == 'e' || e == 'E')
        (by decide) hmark
      -- a sign may stand before the digits
      have hsign : Takes .outside .outside rest body := by
        split at hbody
        · cases hbody
          exact takes_outside (by decide) _
        · cases hbody
          exact takes_outside (by decide) _
        · cases hbody
          exact .refl ..
      simp only
      split
      · exact .refl ..
      · exact (takes_outside he _).trans (hsign.trans (takes_dropWhile (by decide) _))
    · exact .refl ..
  · exact .refl ..

/-- So a number has none. -/
theorem takes_of_magnitude {negative : Bool} {v : Json}
    (h : magnitude negative s = .ok (v, rest)) : Takes .outside .outside s rest := by
  rw [magnitude] at h
  simp only at h
  -- a zero at the front stands alone, so not all digits need be taken
  have hwhole : (if (s.takeWhile isDigit).head? == some '0' then ['0'] else
      s.takeWhile isDigit).length ≤ (s.takeWhile isDigit).length := by
    split
    · next hzero => cases hdigits : s.takeWhile isDigit <;> simp [hdigits] at hzero ⊢
    · exact Nat.le_refl _
  generalize (if (s.takeWhile isDigit).head? == some '0' then ['0'] else s.takeWhile isDigit) =
    whole at h hwhole
  split at h
  · cases h
  · have hrest : Takes .outside .outside s (exponent (fraction (s.drop whole.length)).2).2 :=
      ((takes_drop (by decide) hwhole).trans (takes_fraction _)).trans (takes_exponent _)
    split at h
    · split at h
      · cases h
      · cases h
        exact hrest
    · cases h
      exact hrest

/-- A word that is dropped stood there. -/
theorem eq_append_of_dropWord? {word : List Char} (h : dropWord? word s = some rest) :
    s = word ++ rest := by
  induction word generalizing s with
  | nil => exact Option.some.inj h
  | cons c word ih =>
    cases s with
    | nil => cases h
    | cons d s =>
      rw [dropWord?] at h
      split at h
      · next hsame => rw [ih h, eq_of_beq hsame, List.cons_append]
      · cases h

/-- No word has marks in it. -/
theorem not_structural_of_mem_words {w : String × Json} (h : w ∈ words) :
    ∀ c ∈ w.1.toList, c ∉ structural := by
  have hwords : words.all (fun w ↦ w.1.toList.all fun c ↦ !structural.contains c) = true := by
    decide
  exact not_mem_structural_of_all (List.all_eq_true.1 hwords w h)

/-- What is neither an array, an object nor a string has none. -/
theorem takes_of_readPlain {v : Json} (h : readPlain s = .ok (v, rest)) :
    Takes .outside .outside s rest := by
  rw [readPlain.eq_def] at h
  split at h
  · next r hr =>
    obtain ⟨w, hw, hword⟩ := List.exists_of_findSome?_eq_some hr
    obtain ⟨rest', hrest, rfl⟩ := Option.map_eq_some_iff.1 hword
    obtain ⟨-, rfl⟩ : w.2 = v ∧ rest' = rest := by simpa using h
    have hleads := leads_of_not_structural (not_structural_of_mem_words hw)
    exact ⟨_, eq_append_of_dropWord? hrest, hleads⟩
  · split at h
    · exact (takes_outside (by decide) _).trans (takes_of_magnitude h)
    · exact takes_of_magnitude h

end Takes

/-! ### Values -/

/-- The readers that may go a number of levels deep take what closes all that it opens, and one mark
more in an array or an object. -/
structure TakesValues (fuel : Nat) : Prop where
  /-- The reader of values does. -/
  value {s rest : List Char} {v : Json} (h : readValue fuel s = .ok (v, rest)) :
    Takes .outside .outside s rest
  /-- The reader of items does, up to a closing bracket. -/
  items {s rest : List Char} {vs : List Json} (h : readItems fuel s = .ok (vs, rest)) :
    Takes .outside .outside s (']' :: rest)
  /-- The reader of members does, up to a closing brace. -/
  members {s rest : List Char} {read members : Entries Json}
    (h : readMembers fuel s read = .ok (members, rest)) :
    Takes .outside .outside s ('\x7d' :: rest)

namespace TakesValues

variable {fuel : Nat} (ih : TakesValues fuel)

include ih

/-- The reader of values, one level deeper: a bracket that it opens is closed by the reader of
items, and a brace by the reader of members. -/
theorem value_succ {s rest : List Char} {v : Json}
    (h : readValue (fuel + 1) s = .ok (v, rest)) : Takes .outside .outside s rest := by
  have harray {s rest : List Char} (h : Takes .outside .outside s (']' :: rest)) :
      Takes .outside .outside ('[' :: s) rest := takes_between (fun _ ↦ rfl) (fun _ ↦ rfl) h
  have hobject {s rest : List Char} (h : Takes .outside .outside s ('\x7d' :: rest)) :
      Takes .outside .outside ('\x7b' :: s) rest := takes_between (fun _ ↦ rfl) (fun _ ↦ rfl) h
  rw [readValue.eq_def] at h
  simp only at h
  refine (takes_dropBlanks s).trans ?_
  split at h
  · next hs =>
    rw [hs]
    split at h
    · next hstring =>
      cases h
      exact takes_of_string? hstring
    · cases h
  · next rest₁ hs =>
    rw [hs]
    refine harray ((takes_dropBlanks rest₁).trans ?_)
    split at h
    · next hrest =>
      cases h
      rw [hrest]
      exact .refl ..
    · obtain ⟨r, hr, hv⟩ := exists_of_map_eq_ok h
      cases hv
      exact ih.items hr
  · next rest₁ hs =>
    rw [hs]
    refine hobject ((takes_dropBlanks rest₁).trans ?_)
    split at h
    · next hrest =>
      cases h
      rw [hrest]
      exact .refl ..
    · obtain ⟨r, hr, hv⟩ := exists_of_map_eq_ok h
      cases hv
      exact ih.members hr
  · exact takes_of_readPlain h

/-- The reader of items, one level deeper, takes the bracket with it. -/
theorem items_succ {s rest : List Char} {vs : List Json}
    (h : readItems (fuel + 1) s = .ok (vs, rest)) : Takes .outside .outside s (']' :: rest) := by
  rw [readItems.eq_def] at h
  simp only at h
  split at h
  · cases h
  · next v rest₁ hv =>
    refine (ih.value hv).trans ((takes_dropBlanks rest₁).trans ?_)
    split at h
    · next hrest =>
      cases h
      rw [hrest]
      exact .refl ..
    · next hrest =>
      obtain ⟨r, hr, hitems⟩ := exists_of_map_eq_ok h
      cases hitems
      rw [hrest]
      exact (takes_outside (by decide) _).trans (ih.items hr)
    · cases h

/-- The reader of members, one level deeper, takes the brace with it. -/
theorem members_succ {s rest : List Char} {read members : Entries Json}
    (h : readMembers (fuel + 1) s read = .ok (members, rest)) :
    Takes .outside .outside s ('\x7d' :: rest) := by
  rw [readMembers.eq_def] at h
  simp only at h
  refine (takes_dropBlanks s).trans ?_
  split at h
  · next rest₁ hs =>
    rw [hs]
    split at h
    · cases h
    · next key rest₂ hkey =>
      refine (takes_of_string? hkey).trans ((takes_dropBlanks rest₂).trans ?_)
      split at h
      · next rest₃ hrest₂ =>
        rw [hrest₂]
        refine (takes_outside (by decide) _).trans ?_
        split at h
        · cases h
        · next v rest₄ hv =>
          refine (ih.value hv).trans ((takes_dropBlanks rest₄).trans ?_)
          split at h
          · next hrest₄ =>
            cases h
            rw [hrest₄]
            exact .refl ..
          · next hrest₄ =>
            rw [hrest₄]
            exact (takes_outside (by decide) _).trans (ih.members h)
          · cases h
      · cases h
  · cases h

end TakesValues

/-- All readers take what closes all that it opens, however deep they go. -/
theorem takesValues (fuel : Nat) : TakesValues fuel := by
  induction fuel with
  | zero =>
    refine ⟨fun h ↦ ?_, fun h ↦ ?_, fun h ↦ ?_⟩
    · simp [readValue] at h
    · simp [readItems] at h
    · simp [readMembers] at h
  | succ fuel ih => exact ⟨ih.value_succ, ih.items_succ, ih.members_succ⟩

/-- **A text that stands for a value closes what it opens.** -/
theorem after_of_read {s : String} {v : Json} (h : read s = .ok v) :
    Nesting.start.after s.toList = .start := by
  rw [read] at h
  split at h
  · next v' rest hv =>
    split at h
    · next hblank =>
      have hend : Takes .outside .outside s.toList [] := by
        rw [← List.isEmpty_iff.1 hblank]
        exact ((takesValues _).value hv).trans (takes_dropBlanks rest)
      obtain ⟨x, hx, hleads⟩ := hend
      rw [hx, List.append_nil]
      exact hleads 0
    · cases h
  · cases h

end Json

end TreePath
