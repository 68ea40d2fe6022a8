import TreePath.Proofs.Selection.Plain
import TreePath.Proofs.Step.Equality
import TreePath.Proofs.Text.Quoting

/-!
# What a written step tells

The written form of a plain step is written for no other step, whatever follows it
(`Step.Plain.selfDelimiting`), although names and values may hold any punctuation. It is read from
the front: the first letter tells the kind of a step (`Step.initial`), a quoted text tells where it
ends (`Text.selfDelimiting_quote_toList`), and of items with commas between them each tells where it
ends, while what closes the list is neither a comma nor the beginning of an item
(`listed_append_inj`). The induction is on the step, and the text after it is left open, since a
member of a conjunction is followed by the rest of the conjunction.

Only one of the two steps that are compared has to be plain. For a predicate stands whatever its
name is, so two of them may be written alike; but what is written for it starts with a letter of its
own.

So steps and paths that are written alike are equal (`texts_determine_values`). The converse holds
only for the same values: attributes are written in the order in which they were given.
-/

namespace TreePath

open Text

/-! ### Lists -/

theorem listed_cons (x : List Char) (xs : List (List Char)) :
    listed (x :: xs) = x ++ xs.flatMap fun y ↦ ',' :: ' ' :: y := by
  induction xs generalizing x with
  | nil => simp [listed]
  | cons y ys ih =>
    rw [listed, List.intercalate_cons_cons, ← listed, ih, List.flatMap_cons, List.append_assoc]
    rfl

section Lists

variable {α : Type} {write : α → List Char} {close : Char} (hclose : close ≠ ',') {xs ys : List α}
  (hxs : ∀ x ∈ xs, SelfDelimiting write x) {rest rest' : List Char}

include hclose hxs

/-- What comes after the first item of a list, up to what closes the list. -/
theorem further_append_inj
    (h : ((xs.map write).flatMap fun y ↦ ',' :: ' ' :: y) ++ close :: rest =
      ((ys.map write).flatMap fun y ↦ ',' :: ' ' :: y) ++ close :: rest') :
    xs = ys ∧ rest = rest' := by
  induction xs generalizing ys with
  | nil =>
    cases ys with
    | nil => exact ⟨rfl, (List.cons.inj h).2⟩
    | cons y ys => exact absurd (List.cons.inj h).1 hclose
  | cons x xs ih =>
    obtain ⟨hx, hxs⟩ := List.forall_mem_cons.1 hxs
    cases ys with
    | nil => exact absurd (List.cons.inj h).1.symm hclose
    | cons y ys =>
      simp only [List.map_cons, List.flatMap_cons, List.cons_append, List.append_assoc,
        List.cons.injEq, true_and] at h
      obtain ⟨rfl, hfurther⟩ := hx h
      obtain ⟨rfl, hrest⟩ := ih hxs hfurther
      exact ⟨rfl, hrest⟩

/-- Items with commas between them, up to what closes the list, are written for no other items. -/
theorem listed_append_inj (hopen : ∀ y, ∃ c s, write y = c :: s ∧ c ≠ close)
    (h : listed (xs.map write) ++ close :: rest = listed (ys.map write) ++ close :: rest') :
    xs = ys ∧ rest = rest' := by
  cases xs with
  | nil =>
    cases ys with
    | nil => exact ⟨rfl, (List.cons.inj h).2⟩
    | cons y ys =>
      obtain ⟨c, s, hy, hne⟩ := hopen y
      rw [List.map_cons, listed_cons, hy] at h
      exact absurd (List.cons.inj h).1.symm hne
  | cons x xs =>
    obtain ⟨hx, hxs⟩ := List.forall_mem_cons.1 hxs
    cases ys with
    | nil =>
      obtain ⟨c, s, hx, hne⟩ := hopen x
      rw [List.map_cons, listed_cons, hx] at h
      exact absurd (List.cons.inj h).1 hne
    | cons y ys =>
      rw [List.map_cons, List.map_cons, listed_cons, listed_cons, List.append_assoc,
        List.append_assoc] at h
      obtain ⟨rfl, hfurther⟩ := hx h
      obtain ⟨rfl, hrest⟩ := further_append_inj hclose hxs hfurther
      exact ⟨rfl, hrest⟩

end Lists

/-! ### Attributes -/

theorem exists_quote_eq_cons (s : List Char) :
    ∃ c r, quote s = c :: r ∧ (c = '\'' ∨ c = '"') :=
  ⟨quoteMark s, _, rfl, quoteMark_eq s⟩

namespace Attributes

/-- What is written for a name with its value. -/
theorem selfDelimiting_entry (e : String × String) :
    SelfDelimiting
      (fun e : String × String ↦ quote e.1.toList ++ ':' :: ' ' :: quote e.2.toList) e := by
  intro e' rest rest' h
  rw [List.append_assoc, List.append_assoc] at h
  obtain ⟨hname, h⟩ := selfDelimiting_quote_toList e.1 h
  rw [List.cons_append, List.cons_append, List.cons_append, List.cons_append, List.cons.injEq,
    List.cons.injEq] at h
  obtain ⟨hvalue, hrest⟩ := selfDelimiting_quote_toList e.2 h.2.2
  exact ⟨Prod.ext hname hvalue, hrest⟩

theorem selfDelimiting_chars (a : Attributes) : SelfDelimiting Attributes.chars a := by
  intro b rest rest' h
  have hopen (e : String × String) : ∃ c s,
      quote e.1.toList ++ ':' :: ' ' :: quote e.2.toList = c :: s ∧ c ≠ '\x7d' := by
    obtain ⟨c, r, hquote, hc⟩ := exists_quote_eq_cons e.1.toList
    refine ⟨c, _, by rw [hquote, List.cons_append], ?_⟩
    rcases hc with rfl | rfl
    · decide
    · decide
  rw [chars, chars, List.cons_append, List.cons_append, List.cons.injEq, List.append_assoc,
    List.append_assoc, List.singleton_append, List.singleton_append] at h
  obtain ⟨hentries, hrest⟩ :=
    listed_append_inj (by decide) (fun e _ ↦ selfDelimiting_entry e) hopen h.2
  exact ⟨by cases a; cases b; cases hentries; rfl, hrest⟩

end Attributes

/-! ### Steps -/

namespace Step

theorem chars_name (s : String) :
    (name s).chars = "NameTest(".toList ++ (quote s.toList ++ [')']) := by
  unfold chars
  rfl

theorem chars_attributes (a : Attributes) :
    (attributes a).chars = "AttributeTest(".toList ++ (a.chars ++ [')']) := by
  unfold chars
  rfl

theorem charsOfAll_eq_map (ms : List Step) : charsOfAll ms = ms.map chars := by
  induction ms with
  | nil => rfl
  | cons m ms ih =>
    unfold charsOfAll
    rw [ih, List.map_cons]

theorem chars_all (ms : List Step) :
    (all ms).chars = "Conjunction([".toList ++ (listed (ms.map chars) ++ [']', ')']) := by
  unfold chars
  rw [charsOfAll_eq_map]

/-- The first letter of a written step. -/
def initial : Step → Char
  | name _ => 'N'
  | attributes _ => 'A'
  | predicate _ => 'P'
  | all _ => 'C'
  | unknown _ => 'S'

theorem exists_chars_eq_cons (s : Step) : ∃ r, s.chars = s.initial :: r := by
  cases s with
  | name wanted =>
    rw [chars_name]
    exact ⟨_, rfl⟩
  | attributes wanted =>
    rw [chars_attributes]
    exact ⟨_, rfl⟩
  | predicate p =>
    unfold chars
    exact ⟨_, rfl⟩
  | all ms =>
    rw [chars_all]
    exact ⟨_, rfl⟩
  | unknown i =>
    unfold chars
    exact ⟨_, rfl⟩

theorem initial_eq_of_chars_append {s t : Step} {rest rest' : List Char}
    (h : s.chars ++ rest = t.chars ++ rest') : s.initial = t.initial := by
  obtain ⟨r, hs⟩ := s.exists_chars_eq_cons
  obtain ⟨r', ht⟩ := t.exists_chars_eq_cons
  rw [hs, ht] at h
  exact (List.cons.inj h).1

/-- No step starts like what closes a list of steps. -/
theorem initial_ne_close (s : Step) : s.initial ≠ ']' ∧ s.initial ≠ ')' := by
  cases s <;> simp [initial]

/-- A plain step tells where it ends when it is written. -/
theorem Plain.selfDelimiting {s : Step} (hs : s.Plain) : SelfDelimiting chars s := by
  induction hs with
  | name wanted =>
    intro t rest rest' h
    -- the first letter leaves one kind of step
    cases t with
    | name wanted' =>
      rw [chars_name, chars_name, List.append_assoc, List.append_assoc, List.append_assoc,
        List.append_assoc, List.append_cancel_left_eq] at h
      obtain ⟨rfl, hrest⟩ := selfDelimiting_quote_toList wanted h
      exact ⟨rfl, (List.cons.inj hrest).2⟩
    | _ => exact absurd (initial_eq_of_chars_append h) (by simp [initial])
  | attributes wanted =>
    intro t rest rest' h
    cases t with
    | attributes wanted' =>
      rw [chars_attributes, chars_attributes, List.append_assoc, List.append_assoc,
        List.append_assoc, List.append_assoc, List.append_cancel_left_eq] at h
      obtain ⟨rfl, hrest⟩ := wanted.selfDelimiting_chars h
      exact ⟨rfl, (List.cons.inj hrest).2⟩
    | _ => exact absurd (initial_eq_of_chars_append h) (by simp [initial])
  | @all members _ ih =>
    intro t rest rest' h
    cases t with
    | all members' =>
      have hopen (m : Step) : ∃ c r, m.chars = c :: r ∧ c ≠ ']' := by
        obtain ⟨r, hm⟩ := m.exists_chars_eq_cons
        exact ⟨_, r, hm, m.initial_ne_close.1⟩
      rw [chars_all, chars_all, List.append_assoc, List.append_assoc, List.append_assoc,
        List.append_assoc, List.append_cancel_left_eq] at h
      obtain ⟨rfl, hrest⟩ := listed_append_inj (by decide) ih hopen h
      exact ⟨rfl, (List.cons.inj hrest).2⟩
    | _ => exact absurd (initial_eq_of_chars_append h) (by simp [initial])

theorem same_self (s : Step) : s.same s = true :=
  (same_iff s s).2 rfl

/-- Plain steps that are written alike are the same. -/
theorem text_inj {s t : Step} (hs : s.Plain) (h : s.text = t.text) : s = t := by
  have hchars : s.chars ++ [] = t.chars ++ [] := congrArg (· ++ []) (String.ofList_injective h)
  exact (hs.selfDelimiting hchars).1

end Step

/-! ### Paths -/

namespace Path

theorem chars_eq (p : Path) :
    p.chars = "Path(".toList ++ (listed (p.steps.map Step.chars) ++ [')']) := by
  rw [chars, Step.charsOfAll_eq_map]

theorem text_inj {p q : Path} (hp : p.Plain) (h : p.text = q.text) : p = q := by
  have hchars : p.chars = q.chars := String.ofList_injective h
  have hopen (s : Step) : ∃ c r, s.chars = c :: r ∧ c ≠ ')' := by
    obtain ⟨r, hs⟩ := s.exists_chars_eq_cons
    exact ⟨_, r, hs, s.initial_ne_close.2⟩
  rw [chars_eq, chars_eq, List.append_cancel_left_eq] at hchars
  obtain ⟨hsteps, -⟩ :=
    listed_append_inj (by decide) (fun s hs ↦ (hp s hs).selfDelimiting) hopen hchars
  have hpath : ofSteps? p.steps = some q := ofSteps?_eq_some_iff.2 hsteps
  exact Option.some.inj hpath

/-- No plain step starts like a path. -/
theorem chars_ne_of_plain {s : Step} (hs : s.Plain) (p : Path) : s.chars ≠ p.chars := by
  obtain ⟨r, hr⟩ := s.exists_chars_eq_cons
  intro h
  rw [hr, chars_eq] at h
  have hinitial : s.initial = 'P' := (List.cons.inj h).1
  cases hs with
  | name _ | attributes _ | all _ => exact absurd hinitial (by simp [Step.initial])

end Path

/-- **Plain steps and paths that are written alike are equal.** -/
theorem texts_determine_values :
    (∀ s t : Step, s.Plain → (s.text = t.text ↔ s = t) ∧ (s.text = t.text → s.same t = true)) ∧
      (∀ p q : Path, p.Plain → (p.text = q.text ↔ p = q) ∧ (p.text = q.text → p.same q = true)) ∧
      ∀ (s : Step) (p : Path), s.Plain → s.text ≠ p.text := by
  refine ⟨fun s t hs ↦ ⟨⟨Step.text_inj hs, congrArg Step.text⟩, fun h ↦ ?_⟩,
    fun p q hp ↦ ⟨⟨Path.text_inj hp, congrArg Path.text⟩, fun h ↦ ?_⟩, fun s p hs h ↦ ?_⟩
  · rw [← Step.text_inj hs h]
    exact s.same_self
  · rw [← Path.text_inj hp h]
    exact (Path.same_iff p p).2 rfl
  · exact Path.chars_ne_of_plain hs p (String.ofList_injective h)

/-- A name that imitates the punctuation between two names: one step is written apart from two. -/
theorem texts_determine_values_imitation :
    (Step.all [.name "a'), NameTest('b"]).Plain ∧
      (Step.all [.name "a'), NameTest('b"]).text ≠ (Step.all [.name "a", .name "b"]).text ∧
      (Path.mk (.name "a'), NameTest('b") []).Plain ∧
      (Path.mk (.name "a'), NameTest('b") []).text ≠ (Path.mk (.name "a") [.name "b"]).text := by
  have hstep : (Step.all [.name "a'), NameTest('b"]).Plain :=
    .all fun m hm ↦ by rw [List.mem_singleton.1 hm]; exact .name _
  have hpath : (Path.mk (.name "a'), NameTest('b") []).Plain :=
    fun s hs ↦ by rw [List.mem_singleton.1 hs]; exact .name _
  obtain ⟨hsteps, hpaths, -⟩ := texts_determine_values
  refine ⟨hstep, fun h ↦ ?_, hpath, fun h ↦ ?_⟩
  · exact absurd ((hsteps _ _ hstep).1.1 h) (by simp)
  · exact absurd ((hpaths _ _ hpath).1.1 h) (by simp)

end TreePath
