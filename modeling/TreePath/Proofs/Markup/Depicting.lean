import Mathlib.Data.List.Forall2
import TreePath.Markup.Assembly

/-!
# What a source stands for

Which document a source tree stands for can be said without assembling it, clause by clause
(`Source.Depicts`): a tag is an element of its name whose attributes are the texts of the values, in
order; a comment is a comment; a string of characters is a text if it is not empty and, unless
blanks are kept, not only blank; nothing else is anything. The text of a value has one clause for
each kind of value (`Source.Flattens`). None of this mentions how a document is assembled; that the
assembly comes to the same is the subject of `TreePath.Proofs.Markup.Assembling`.

Not every source stands for something. A tag needs a name, and the values of its attributes have to
be such that they can be written. `Source.fault?` finds the first tag for which this fails and says
what is wrong with it; sources without a fault are those in which every tag has a name and every
value that is written can be (`Source.fault?_eq_none_iff`), and they are those that stand for a
document (`Source.exists_depicts`). There is at most one (`Source.Depicts.unique`).

The functions that put values into words are followed from the inside out, each by two lemmas: when
it returns what, and when it fails with what. A function on a list fails with the failure of the
first item that fails (`mapM_eq_error_iff`).
-/

namespace TreePath

/-! ### Lists of computations that may fail -/

section Mapping

variable {ε α β : Type} {f : α → Except ε β}

/-- The first failure ends it. -/
theorem mapM_cons_of_error {x : α} {e : ε} (h : f x = .error e) (xs : List α) :
    (x :: xs).mapM f = .error e := by
  rw [List.mapM_cons, h]
  rfl

theorem mapM_cons_of_ok {x : α} {y : β} (h : f x = .ok y) (xs : List α) :
    (x :: xs).mapM f = (xs.mapM f).map (y :: ·) := by
  rw [List.mapM_cons, h]
  cases xs.mapM f <;> rfl

/-- A function succeeds along a list if it does for each item, and the results stand in the order of
the items. -/
theorem mapM_eq_ok_iff {xs : List α} {ys : List β} :
    xs.mapM f = .ok ys ↔ List.Forall₂ (fun x y ↦ f x = .ok y) xs ys := by
  induction xs generalizing ys with
  | nil =>
    rw [List.mapM_nil, List.forall₂_nil_left_iff]
    exact ⟨fun h ↦ (Except.ok.inj h).symm, fun h ↦ h ▸ rfl⟩
  | cons x xs ih =>
    rw [List.forall₂_cons_left_iff]
    simp only [← ih]
    cases hx : f x with
    | error e => simp [mapM_cons_of_error hx]
    | ok y =>
      rw [mapM_cons_of_ok hx]
      cases xs.mapM f with
      | error e => simp [Except.map]
      | ok zs => simp [Except.map, eq_comm]

/-- What succeeds has no fault, if faults are what makes it fail. -/
theorem fault_eq_none_of_ok {x : Except ε β} {y : β} {fault : Option ε}
    (h : ∀ e, x = .error e ↔ fault = some e) (hx : x = .ok y) : fault = none := by
  cases hfault : fault with
  | none => rfl
  | some e =>
    rw [(h e).2 hfault] at hx
    cases hx

/-- A list of computations fails with the failure of the first that fails. -/
theorem mapM_eq_error_iff {fault : α → Option ε} (hf : ∀ x e, f x = .error e ↔ fault x = some e)
    {xs : List α} {e : ε} : xs.mapM f = .error e ↔ xs.findSome? fault = some e := by
  induction xs with
  | nil => simp [pure, Except.pure]
  | cons x xs ih =>
    rw [List.findSome?_cons]
    cases hx : f x with
    | error e' => simp [mapM_cons_of_error hx, (hf x e').1 hx]
    | ok y =>
      have hnone : fault x = none := fault_eq_none_of_ok (hf x) hx
      rw [mapM_cons_of_ok hx, hnone]
      simp only
      rw [← ih]
      cases xs.mapM f <;> simp [Except.map]

theorem findSome?_flatMap (g : α → List β) (h : β → Option ε) (xs : List α) :
    (xs.flatMap g).findSome? h = xs.findSome? fun x ↦ (g x).findSome? h := by
  induction xs with
  | nil => rfl
  | cons x xs ih =>
    rw [List.flatMap_cons, List.findSome?_append, ih, List.findSome?_cons]
    cases (g x).findSome? h <;> rfl

end Mapping

/-- Of several literals the first that cannot be written counts. -/
theorem Literal.writingFaultAmong?_eq (vs : List Literal) :
    writingFaultAmong? vs = vs.findSome? writingFault? := by
  induction vs with
  | nil => rfl
  | cons v rest ih =>
    rw [writingFaultAmong?, ih, List.findSome?_cons]
    cases writingFault? v <;> rfl

namespace Source

/-! ### The texts of values -/

/-- The text that stands for a literal by itself. -/
inductive Spells : Literal → String → Prop
  /-- A text stands for itself. -/
  | text (s : String) : Spells (.text s) s
  /-- Anything else is written, if it can be. -/
  | written {v : Literal} (hv : ∀ s, v ≠ .text s) (h : v.writingFault? = none) : Spells v v.written

/-- The text that stands for the value of an attribute. -/
inductive Flattens : Literal → String → Prop
  /-- Nothing is the empty text. -/
  | none : Flattens .none ""
  /-- The items of a list stand side by side, one blank between each two. -/
  | list {items : List Literal} {texts : List String} (h : List.Forall₂ Spells items texts) :
    Flattens (.list items) (" ".intercalate texts)
  /-- So do those of a tuple. -/
  | tuple {items : List Literal} {texts : List String} (h : List.Forall₂ Spells items texts) :
    Flattens (.tuple items) (" ".intercalate texts)
  /-- Anything else stands by itself. -/
  | other {v : Literal} {s : String} (hnone : v ≠ .none) (hlist : ∀ items, v ≠ .list items)
    (htuple : ∀ items, v ≠ .tuple items) (h : Spells v s) : Flattens v s

/-- The literals that have to be written for the value of an attribute. -/
def shownIn : Literal → List Literal
  | .none => []
  | .list items => items
  | .tuple items => items
  | v => [v]

/-- A literal has no plain text if it cannot be written. -/
theorem plainText_eq_error_iff {v : Literal} {e : LiteralError} :
    plainText v = .error e ↔ v.writingFault? = some e := by
  rw [plainText.eq_def]
  split
  · next s => simp [Literal.writingFault?]
  · cases v.writingFault? <;> simp

/-- Otherwise its plain text is what spells it. -/
theorem plainText_eq_ok_iff {v : Literal} {s : String} : plainText v = .ok s ↔ Spells v s := by
  rw [plainText.eq_def]
  constructor
  · intro h
    split at h
    · cases h
      exact .text s
    · next htext =>
      split at h
      · cases h
      · next hfault =>
        cases h
        exact .written htext hfault
  · rintro (_ | ⟨hv, hfault⟩)
    · rfl
    · split
      · next t => exact absurd rfl (hv t)
      · simp only [hfault]

/-- Several literals are not joined if one of them cannot be written; the first counts. -/
theorem joinedText_eq_error_iff {items : List Literal} {e : LiteralError} :
    joinedText items = .error e ↔ Literal.writingFaultAmong? items = some e := by
  rw [Literal.writingFaultAmong?_eq, ← mapM_eq_error_iff fun v e ↦ plainText_eq_error_iff,
    joinedText]
  cases items.mapM plainText <;> simp [Except.map]

/-- Otherwise their plain texts are joined by blanks. -/
theorem joinedText_eq_ok_iff {items : List Literal} {s : String} : joinedText items = .ok s ↔
    ∃ texts, List.Forall₂ Spells items texts ∧ " ".intercalate texts = s := by
  have hspells (texts : List String) : List.Forall₂ Spells items texts ↔
      items.mapM plainText = .ok texts := by
    simp only [mapM_eq_ok_iff, plainText_eq_ok_iff]
  simp only [hspells, joinedText]
  cases items.mapM plainText <;> simp [Except.map]

/-- A value has no text if something that has to be written for it cannot be. -/
theorem attributeText_eq_error_iff {v : Literal} {e : LiteralError} :
    attributeText v = .error e ↔ Literal.writingFaultAmong? (shownIn v) = some e := by
  have hplain (htext : attributeText v = plainText v) (hshown : shownIn v = [v]) :
      attributeText v = .error e ↔ Literal.writingFaultAmong? (shownIn v) = some e := by
    rw [htext, hshown, Literal.writingFaultAmong?, Literal.writingFaultAmong?, Option.or_none]
    exact plainText_eq_error_iff
  cases v with
  | none => simp [attributeText, shownIn, Literal.writingFaultAmong?]
  | list items => exact joinedText_eq_error_iff
  | tuple items => exact joinedText_eq_error_iff
  | _ => exact hplain rfl rfl

/-- Otherwise its text is what the clauses say. -/
theorem attributeText_eq_ok_iff {v : Literal} {s : String} :
    attributeText v = .ok s ↔ Flattens v s := by
  constructor
  · intro h
    rw [attributeText.eq_def] at h
    split at h
    · cases h
      exact .none
    · obtain ⟨texts, htexts, rfl⟩ := joinedText_eq_ok_iff.1 h
      exact .list htexts
    · obtain ⟨texts, htexts, rfl⟩ := joinedText_eq_ok_iff.1 h
      exact .tuple htexts
    · next hnone hlist htuple => exact .other hnone hlist htuple (plainText_eq_ok_iff.1 h)
  · intro h
    cases h with
    | none => rfl
    | list h => exact joinedText_eq_ok_iff.2 ⟨_, h, rfl⟩
    | tuple h => exact joinedText_eq_ok_iff.2 ⟨_, h, rfl⟩
    | other hnone hlist htuple h =>
      rw [attributeText.eq_def]
      split
      · exact absurd rfl hnone
      · exact absurd rfl (hlist _)
      · exact absurd rfl (htuple _)
      · exact plainText_eq_ok_iff.2 h

end Source

/-! ### Attributes -/

namespace TagAttributes

/-- The literals that have to be written for the attributes of a tag, in order. -/
def shown (a : TagAttributes) : List Literal :=
  a.entries.flatMap fun e ↦ Source.shownIn e.2

/-- The attributes of an element are those of a tag: the same names in the same order, each with the
text that stands for its value. -/
def Lists (a : TagAttributes) (b : Attributes) : Prop :=
  List.Forall₂ (fun e p ↦ e.1 = p.1 ∧ Source.Flattens e.2 p.2) a.entries b.entries

end TagAttributes

namespace Assembly

open Source (Flattens)

/-- The attributes of a tag have no texts if something shown in them cannot be written. -/
theorem attributesOf_eq_error_iff {a : TagAttributes} {e : LiteralError} :
    attributesOf a = .error e ↔ Literal.writingFaultAmong? a.shown = some e := by
  have hentry (x : String × Literal) (e : LiteralError) :
      (Source.attributeText x.2).map (x.1, ·) = .error e ↔
        (Source.shownIn x.2).findSome? Literal.writingFault? = some e := by
    rw [← Literal.writingFaultAmong?_eq, ← Source.attributeText_eq_error_iff]
    cases Source.attributeText x.2 <;> simp [Except.map]
  rw [Literal.writingFaultAmong?_eq, TagAttributes.shown, findSome?_flatMap,
    ← mapM_eq_error_iff hentry, attributesOf]
  cases a.entries.mapM fun x ↦ (Source.attributeText x.2).map (x.1, ·) <;> simp [Except.map]

/-- Otherwise their texts stand in the order of the tag, under the same names. -/
theorem attributesOf_eq_ok_iff {a : TagAttributes} {b : Attributes} :
    attributesOf a = .ok b ↔ a.Lists b := by
  have hentry (x : String × Literal) (p : String × String) :
      (Source.attributeText x.2).map (x.1, ·) = .ok p ↔ x.1 = p.1 ∧ Flattens x.2 p.2 := by
    obtain ⟨name, text⟩ := p
    rw [← Source.attributeText_eq_ok_iff]
    cases Source.attributeText x.2 <;> simp [Except.map]
  -- the names are those of the tag, and so they are distinct
  have hkeys {pairs : List (String × String)}
      (h : List.Forall₂ (fun e p ↦ e.1 = p.1 ∧ Flattens e.2 p.2) a.entries pairs) :
      (Entries.keys pairs).Nodup := by
    have hsame : a.entries.keys = Entries.keys pairs := by
      rw [← List.forall₂_eq_eq_eq, Entries.keys, Entries.keys, List.forall₂_map_left_iff,
        List.forall₂_map_right_iff]
      exact h.imp fun _ _ h ↦ h.1
    exact hsame ▸ a.nodup_keys
  have hpairs (pairs : List (String × String)) :
      (a.entries.mapM fun x ↦ (Source.attributeText x.2).map (x.1, ·)) = .ok pairs ↔
        List.Forall₂ (fun e p ↦ e.1 = p.1 ∧ Flattens e.2 p.2) a.entries pairs := by
    simp only [mapM_eq_ok_iff, hentry]
  rw [attributesOf, TagAttributes.Lists, ← hpairs]
  constructor
  · intro h
    cases hmap : a.entries.mapM fun x ↦ (Source.attributeText x.2).map (x.1, ·) with
    | error e =>
      rw [hmap] at h
      cases h
    | ok pairs =>
      rw [hmap] at h
      cases h
      rw [Attributes.entries_ofPairs (hkeys ((hpairs pairs).1 hmap))]
  · intro h
    have hentries := Attributes.entries_ofPairs (hkeys ((hpairs _).1 h))
    rw [h]
    exact congrArg Except.ok (Attributes.ext_entries hentries)

end Assembly

/-- What the attributes of a tag are listed as is determined. -/
theorem TagAttributes.Lists.unique {a : TagAttributes} {b b' : Attributes} (h : a.Lists b)
    (h' : a.Lists b') : b = b' := by
  rw [← Assembly.attributesOf_eq_ok_iff] at h h'
  exact Except.ok.inj (h.symm.trans h')

/-! ### Faults -/

/-- The refusal of a tag whose name is empty. -/
def namelessError : AssemblyError :=
  .node (.badName (Literal.text "").written)

/-- Why no element can be made of a tag, if none can: it has no name, or else something in its
attributes cannot be written. -/
def TagAttributes.fault? (name : String) (attributes : TagAttributes) : Option AssemblyError :=
  if name = "" then some namelessError
  else (Literal.writingFaultAmong? attributes.shown).map .unwritable

namespace Assembly

theorem newElement_eq {name : String} (h : name ≠ "") :
    Content.newElement (.text name) [] = .ok (.element name .empty) := by
  have hname : name.isEmpty = false := by simpa using h
  simp only [Content.newElement, List.map_nil, Literal.unhashableAmong?, hname]
  rfl

/-- A tag becomes an element if it has a name and its attributes have texts. -/
theorem elementOf_eq_ok_iff {name : String} {attributes : TagAttributes} {c : Content} :
    elementOf name attributes = .ok c ↔
      name ≠ "" ∧ ∃ a, attributes.Lists a ∧ c = .element name a := by
  simp only [← attributesOf_eq_ok_iff]
  by_cases hname : name = ""
  · subst hname
    exact iff_of_false nofun fun h ↦ h.1 rfl
  · rw [elementOf, newElement_eq hname]
    cases attributesOf attributes <;> simp [hname, eq_comm]

/-- Otherwise it has a fault, and that is what goes wrong. -/
theorem elementOf_eq_error_iff {name : String} {attributes : TagAttributes} {e : AssemblyError} :
    elementOf name attributes = .error e ↔ attributes.fault? name = some e := by
  by_cases hname : name = ""
  · subst hname
    have hrun : elementOf "" attributes = .error namelessError := rfl
    rw [hrun, TagAttributes.fault?, if_pos rfl]
    simp
  · rw [elementOf, newElement_eq hname, TagAttributes.fault?, if_neg hname]
    cases hattributes : attributesOf attributes with
    | error e' => simp [attributesOf_eq_error_iff.1 hattributes]
    | ok a =>
      have hnone : Literal.writingFaultAmong? attributes.shown = none :=
        fault_eq_none_of_ok (fun _ ↦ attributesOf_eq_error_iff) hattributes
      simp [hnone]

end Assembly

namespace Source

/-- Why no document can be made of a source, if none can: what is wrong with the first tag that no
element can be made of. -/
def fault? : List Source → Option AssemblyError
  | [] => none
  | .tag name attributes contents :: rest =>
    (attributes.fault? name).or ((fault? contents).or (fault? rest))
  | .string .. :: rest => fault? rest

/-- Every tag has a name. -/
def Named : List Source → Prop
  | [] => True
  | .tag name _ contents :: rest => name ≠ "" ∧ Named contents ∧ Named rest
  | .string .. :: rest => Named rest

/-- The literals that have to be written for the attributes of all tags, in the order of the
text. -/
def shown : List Source → List Literal
  | [] => []
  | .tag _ attributes contents :: rest => attributes.shown ++ (shown contents ++ shown rest)
  | .string .. :: rest => shown rest

/-- Everything that has to be written for the attributes can be. -/
def Writable (sources : List Source) : Prop :=
  ∀ v ∈ shown sources, v.writingFault? = none

theorem writable_iff {sources : List Source} :
    Writable sources ↔ Literal.writingFaultAmong? (shown sources) = none := by
  rw [Literal.writingFaultAmong?_eq, List.findSome?_eq_none_iff, Writable]

/-- Where every tag has a name, the fault is that of the first literal that cannot be written. -/
theorem Named.fault?_eq {sources : List Source} (h : Named sources) :
    fault? sources = (Literal.writingFaultAmong? (shown sources)).map .unwritable := by
  induction sources using list_induction with
  | nil => simp [fault?, shown, Literal.writingFaultAmong?]
  | tag name attributes contents rest ihcontents ihrest =>
    rw [Named] at h
    obtain ⟨hname, hcontents, hrest⟩ := h
    simp only [fault?, TagAttributes.fault?, if_neg hname, ihcontents hcontents, ihrest hrest,
      shown, Literal.writingFaultAmong?_eq, List.findSome?_append, Option.map_or]
  | string kind text rest ih =>
    rw [Named] at h
    rw [fault?, shown, ih h]

/-- There is no fault exactly if every tag has a name and everything can be written. -/
theorem fault?_eq_none_iff {sources : List Source} :
    fault? sources = none ↔ Named sources ∧ Writable sources := by
  have hnamed : fault? sources = none → Named sources := by
    induction sources using list_induction with
    | nil => simp [Named]
    | tag name attributes contents rest ihcontents ihrest =>
      intro h
      rw [fault?, Option.or_eq_none_iff, Option.or_eq_none_iff] at h
      obtain ⟨htag, hcontents, hrest⟩ := h
      rw [Named]
      refine ⟨fun hname ↦ ?_, ihcontents hcontents, ihrest hrest⟩
      rw [TagAttributes.fault?, if_pos hname] at htag
      cases htag
    | string kind text rest ih =>
      intro h
      rw [fault?] at h
      rw [Named]
      exact ih h
  constructor
  · intro h
    have hwritten := (hnamed h).fault?_eq
    rw [h] at hwritten
    exact ⟨hnamed h, writable_iff.2 (Option.map_eq_none_iff.1 hwritten.symm)⟩
  · rintro ⟨h, hwritable⟩
    rw [h.fault?_eq, writable_iff.1 hwritable]
    rfl

/-! ### Documents -/

/-- What stands at the top of a document that sources stand for, in order. -/
inductive Depicts (keepBlank : Bool) : List Source → Grove Content → Prop
  /-- Nothing stands for nothing. -/
  | nil : Depicts keepBlank [] []
  /-- A tag is an element, with what is inside the tag inside the element. -/
  | tag {name : String} {attributes : TagAttributes} {contents rest : List Source} {a : Attributes}
    {below after : Grove Content} (hname : name ≠ "") (hattributes : attributes.Lists a)
    (hcontents : Depicts keepBlank contents below) (hrest : Depicts keepBlank rest after) :
    Depicts keepBlank (.tag name attributes contents :: rest)
      (.node (.element name a) below :: after)
  /-- A comment is a comment. -/
  | comment {text : String} {rest : List Source} {after : Grove Content}
    (hrest : Depicts keepBlank rest after) :
    Depicts keepBlank (.string .comment text :: rest) (.node (.comment text) [] :: after)
  /-- Characters are a text if there are any, and one of them is not blank or blanks are kept. -/
  | kept {text : String} {rest : List Source} {after : Grove Content} (hne : text ≠ "")
    (hkept : keepBlank = true ∨ ∃ c ∈ text.toList, Text.isBlank c = false)
    (hrest : Depicts keepBlank rest after) :
    Depicts keepBlank (.string .text text :: rest) (.node (.text text) [] :: after)
  /-- Else they are nothing. -/
  | dropped {text : String} {rest : List Source} {after : Grove Content}
    (hdropped : text = "" ∨ keepBlank = false ∧ ∀ c ∈ text.toList, Text.isBlank c = true)
    (hrest : Depicts keepBlank rest after) : Depicts keepBlank (.string .text text :: rest) after
  /-- Declarations of any sort and instructions are nothing. -/
  | skipped {kind : StringKind} {text : String} {rest : List Source} {after : Grove Content}
    (hcomment : kind ≠ .comment) (htext : kind ≠ .text) (hrest : Depicts keepBlank rest after) :
    Depicts keepBlank (.string kind text :: rest) after

end Source

/-- A text is kept if it is not empty, and if blanks are kept or some character is no blank. -/
theorem keepsText_eq_true_iff {keepBlank : Bool} {text : String} : keepsText keepBlank text = true ↔
    text ≠ "" ∧ (keepBlank = true ∨ ∃ c ∈ text.toList, Text.isBlank c = false) := by
  simp [keepsText, Text.allBlank]

/-- It is dropped if it is empty, or if blanks are dropped and it has no other characters. -/
theorem keepsText_eq_false_iff {keepBlank : Bool} {text : String} :
    keepsText keepBlank text = false ↔
      text = "" ∨ keepBlank = false ∧ ∀ c ∈ text.toList, Text.isBlank c = true := by
  simp [keepsText, Text.allBlank, or_iff_not_imp_left]

namespace Source

variable {keepBlank : Bool}

/-- Characters are a text or not, whichever the rule says. -/
theorem depicts_text (text : String) {rest : List Source} {after : Grove Content}
    (h : Depicts keepBlank rest after) : Depicts keepBlank (.string .text text :: rest)
      ((if keepsText keepBlank text then [.node (.text text) []] else []) ++ after) := by
  cases hkeep : keepsText keepBlank text with
  | true =>
    obtain ⟨hne, hkept⟩ := keepsText_eq_true_iff.1 hkeep
    exact .kept hne hkept h
  | false => exact .dropped (keepsText_eq_false_iff.1 hkeep) h

/-- A source without a fault stands for something. -/
theorem exists_depicts (keepBlank : Bool) {sources : List Source} (h : fault? sources = none) :
    ∃ g, Depicts keepBlank sources g := by
  induction sources using list_induction with
  | nil => exact ⟨[], .nil⟩
  | tag name attributes contents rest ihcontents ihrest =>
    rw [fault?, Option.or_eq_none_iff, Option.or_eq_none_iff] at h
    obtain ⟨htag, hcontents, hrest⟩ := h
    obtain ⟨below, hbelow⟩ := ihcontents hcontents
    obtain ⟨after, hafter⟩ := ihrest hrest
    cases helement : Assembly.elementOf name attributes with
    | error e =>
      rw [Assembly.elementOf_eq_error_iff.1 helement] at htag
      cases htag
    | ok c =>
      obtain ⟨hname, a, ha, -⟩ := Assembly.elementOf_eq_ok_iff.1 helement
      exact ⟨_, .tag hname ha hbelow hafter⟩
  | string kind text rest ih =>
    rw [fault?] at h
    obtain ⟨after, hafter⟩ := ih h
    cases kind with
    | comment => exact ⟨_, .comment hafter⟩
    | text => exact ⟨_, depicts_text text hafter⟩
    | _ => exact ⟨after, .skipped nofun nofun hafter⟩

/-- A source stands for one thing at most. -/
theorem Depicts.unique {sources : List Source} {g g' : Grove Content}
    (h : Depicts keepBlank sources g) (h' : Depicts keepBlank sources g') : g = g' := by
  -- a text that is kept is not dropped
  have hnot {text : String} (hne : text ≠ "")
      (hkept : keepBlank = true ∨ ∃ c ∈ text.toList, Text.isBlank c = false)
      (hdropped : text = "" ∨ keepBlank = false ∧ ∀ c ∈ text.toList, Text.isBlank c = true) :
      False := by
    have htrue := keepsText_eq_true_iff.2 ⟨hne, hkept⟩
    rw [keepsText_eq_false_iff.2 hdropped] at htrue
    cases htrue
  induction h generalizing g' with
  | nil =>
    cases h'
    rfl
  | tag hname ha _ _ ihcontents ihrest =>
    cases h' with
    | tag _ ha' hcontents' hrest' =>
      rw [ha.unique ha', ihcontents hcontents', ihrest hrest']
  | comment _ ih =>
    cases h' with
    | comment hrest' => rw [ih hrest']
    | skipped hcomment _ _ => exact absurd rfl hcomment
  | kept hne hkept _ ih =>
    cases h' with
    | kept _ _ hrest' => rw [ih hrest']
    | dropped hdropped _ => exact (hnot hne hkept hdropped).elim
    | skipped _ htext _ => exact absurd rfl htext
  | dropped hdropped _ ih =>
    cases h' with
    | kept hne hkept _ => exact (hnot hne hkept hdropped).elim
    | dropped _ hrest' => exact ih hrest'
    | skipped _ htext _ => exact absurd rfl htext
  | skipped hcomment htext _ ih =>
    cases h' with
    | comment _ => exact absurd rfl hcomment
    | kept _ _ _ => exact absurd rfl htext
    | dropped _ _ => exact absurd rfl htext
    | skipped _ _ hrest' => exact ih hrest'

end Source

end TreePath
