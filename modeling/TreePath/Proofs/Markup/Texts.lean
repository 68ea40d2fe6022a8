import TreePath.Proofs.Markup.Assembling

/-!
# The text of assembled documents

The text of a document is collected from the document alone; where it comes from is the source. It
is the strings of the source that are character data, put together in their order, blanks included
only if the builder keeps them (`Source.keptTexts`), and the same holds of every element and the tag
it was made of (`Builder.texts_in_order`).

Two recursions meet here, one that drops strings while the document is assembled and one that skips
nodes while its text is collected. They meet in what the source stands for (`Source.Depicts`), and
each is compared with that alone (`Source.Depicts.groveText_eq`). The only strings on which the two
disagree are empty, and these add nothing. That the elements stand for the tags, one by one, is an
induction along the same relation: the children of a node have the shapes of what is inside its tag
(`Assembly.forall₂_elements`).

The statement on elements is one on all of them at once: the tags of a source and the elements of
its document are two lists, of the same length and in the same order, and what is said of each pair
is what is said of the source and its document.
-/

namespace TreePath

/-! ### The strings and tags of a source -/

namespace Source

/-- What a tag is made of. -/
structure Tag where
  /-- Its name. -/
  name : String
  /-- Its attributes. -/
  attributes : TagAttributes
  /-- What is inside. -/
  contents : List Source

/-- Every tag of a source, each before those inside it. -/
def tags : List Source → List Tag
  | [] => []
  | .tag name attributes contents :: rest =>
    ⟨name, attributes, contents⟩ :: (tags contents ++ tags rest)
  | .string .. :: rest => tags rest

/-- Every string of a source with its kind, in the order of the text. -/
def strings : List Source → List (StringKind × String)
  | [] => []
  | .tag _ _ contents :: rest => strings contents ++ strings rest
  | .string kind text :: rest => (kind, text) :: strings rest

/-- The character data of a source, in the order of the text; blanks alone count only if they are
kept. -/
def keptTexts (keepBlank : Bool) (sources : List Source) : List String :=
  ((strings sources).filter fun e ↦ e.1 == .text && (keepBlank || !Text.allBlank e.2)).map Prod.snd

end Source

/-! ### The text of a document -/

/-- Empty strings add nothing. -/
theorem String.join_filter_nonempty (ss : List String) :
    String.join (ss.filter fun s ↦ !s.isEmpty) = String.join ss := by
  induction ss with
  | nil => rfl
  | cons s rest ih =>
    cases hs : s.isEmpty with
    | true =>
      obtain rfl : s = "" := by simpa using hs
      rw [List.filter_cons_of_neg (by simp [hs]), ih, String.join_cons, String.empty_append]
    | false => rw [List.filter_cons_of_pos (by simp [hs]), String.join_cons, String.join_cons, ih]

namespace Source.Depicts

variable {keepBlank : Bool} {sources : List Source} {g : Grove Content}

/-- The texts that a source stands for are its character data that is kept, less what is empty. -/
theorem groveText_eq (h : Depicts keepBlank sources g) :
    Tree.groveText g = (keptTexts keepBlank sources).filter fun s ↦ !s.isEmpty := by
  induction h with
  | nil => simp [Tree.groveText, keptTexts, strings]
  | tag _ _ _ _ ihcontents ihrest =>
    rw [Tree.groveText, ihrest, keptTexts, keptTexts, strings, List.filter_append, List.map_append,
      List.filter_append]
    exact congrArg (· ++ _) ihcontents
  | comment _ ih =>
    rw [keptTexts] at ih ⊢
    rw [Tree.groveText, ih, strings, List.filter_cons_of_neg (by simp)]
    rfl
  | @kept text _ _ hne hkept _ ih =>
    rw [keptTexts] at ih ⊢
    have hkeep := keepsText_eq_true_iff.2 ⟨hne, hkept⟩
    rw [keepsText, Bool.and_eq_true] at hkeep
    simp [strings, hkeep, ih, Tree.groveText, Content.type, Content.value?]
  | @dropped text _ _ hdropped _ ih =>
    rw [keptTexts] at ih ⊢
    have hdrop := keepsText_eq_false_iff.2 hdropped
    rw [ih, strings]
    cases hempty : text.isEmpty <;> cases hblank : keepBlank || !Text.allBlank text <;>
      simp_all [keepsText]
  | @skipped kind _ _ _ _ htext _ ih =>
    rw [keptTexts] at ih ⊢
    rw [ih, strings, List.filter_cons_of_neg (by simp [htext])]

theorem join_groveText (h : Depicts keepBlank sources g) :
    String.join (Tree.groveText g) = String.join (keptTexts keepBlank sources) := by
  rw [h.groveText_eq, String.join_filter_nonempty]

end Source.Depicts

namespace Assembly

/-! ### Elements and tags -/

/-- A node is the element that a tag is made into, and has the text that is kept of what is inside
the tag. -/
structure StandsFor (keepBlank : Bool) (f : Forest) (i : NodeId) (t : Source.Tag) : Prop where
  /-- The element has the name and the attributes of the tag. -/
  exists_content_eq : ∃ a, t.attributes.Lists a ∧ f.content i = .element t.name a
  /-- Its text is that of what is inside. -/
  text_eq : f.textContent i = String.join (Source.keptTexts keepBlank t.contents)

variable {keepBlank : Bool} {f : Forest} (hf : f.WellLinked)

include hf

/-- A node whose children have the shapes that a source stands for has the text that is kept of the
source. -/
theorem textContent_of_children {i : NodeId} (htype : (f.content i).type ≠ .text)
    {sources : List Source} (h : Source.Depicts keepBlank sources ((f.children i).map f.shape)) :
    f.textContent i = String.join (Source.keptTexts keepBlank sources) := by
  rw [Forest.textContent, hf.shape_eq, Tree.text, Tree.label_node, Tree.branches_node,
    h.join_groveText]
  split
  · next heq => exact absurd heq htype
  · rfl

/-- Where nodes side by side have the shapes that a source stands for, the elements among and below
them stand for the tags of the source, one by one. -/
theorem forall₂_elements {sources : List Source} {g : Grove Content}
    (h : Source.Depicts keepBlank sources g) :
    ∀ {cs : List NodeId}, cs.map f.shape = g →
      List.Forall₂ (StandsFor keepBlank f)
        ((cs.filter f.isElement).flatMap fun c ↦ c :: f.elements c) (Source.tags sources) := by
  -- a node that is no element is passed over
  have hleaf {c : Content} (hc : c.isElement = false) {g : Grove Content} {tags : List Source.Tag}
      (hrest : ∀ {cs : List NodeId}, cs.map f.shape = g → List.Forall₂ (StandsFor keepBlank f)
        ((cs.filter f.isElement).flatMap fun c ↦ c :: f.elements c) tags)
      {cs : List NodeId} (h : cs.map f.shape = .node c [] :: g) :
      List.Forall₂ (StandsFor keepBlank f)
        ((cs.filter f.isElement).flatMap fun c ↦ c :: f.elements c) tags := by
    rw [List.map_eq_cons_iff] at h
    obtain ⟨i, cs, rfl, hshape, hcs⟩ := h
    rw [hf.shape_eq] at hshape
    have helement : ¬ f.isElement i = true := by
      rw [Forest.isElement, (Tree.node.inj hshape).1, hc]
      exact Bool.false_ne_true
    rw [List.filter_cons_of_neg helement]
    exact hrest hcs
  induction h with
  | nil =>
    intro cs h
    rw [List.map_eq_nil_iff.1 h, Source.tags]
    exact .nil
  | @tag name _ _ _ a _ _ _ ha hcontents _ ihcontents ihrest =>
    intro cs h
    rw [List.map_eq_cons_iff] at h
    obtain ⟨c, cs, rfl, hshape, hrest⟩ := h
    rw [hf.shape_eq] at hshape
    obtain ⟨hcontent, hchildren⟩ := Tree.node.inj hshape
    have helement : f.isElement c = true := by rw [Forest.isElement, hcontent]; rfl
    have htext := textContent_of_children hf (by simp [hcontent, Content.type])
      (hchildren ▸ hcontents)
    have hbelow := ihcontents hchildren
    rw [← Forest.elementChildren, ← hf.elements_eq] at hbelow
    rw [List.filter_cons_of_pos helement, List.flatMap_cons, Source.tags]
    exact .cons ⟨⟨a, ha, hcontent⟩, htext⟩ (List.rel_append hbelow (ihrest hrest))
  | comment _ ih =>
    intro cs h
    rw [Source.tags]
    exact hleaf rfl ih h
  | kept _ _ _ ih =>
    intro cs h
    rw [Source.tags]
    exact hleaf rfl ih h
  | dropped _ _ ih =>
    intro cs h
    rw [Source.tags]
    exact ih h
  | skipped _ _ _ ih =>
    intro cs h
    rw [Source.tags]
    exact ih h

end Assembly

/-! ### The document -/

/-- **The text of a document is that of its source.** Either some tag has no name, or some attribute
value cannot be written, and there is no document; or there is one. Its text is then the character
data of the source, put together in order, where blanks alone count only if the builder keeps them.
Its elements stand for the tags, one by one, and the text of each is that of what is inside the
tag. -/
theorem Builder.texts_in_order (b : Builder) (sources : List Source) {w : Workshop}
    (hw : w.forest.WellLinked) :
    (¬ (Source.Named sources ∧ Source.Writable sources) ∧ ∃ e w',
      Source.fault? sources = some e ∧ (b.assemble sources).run w = .error e w') ∨
    (Source.Named sources ∧ Source.Writable sources ∧ ∃ d w',
      (b.assemble sources).run w = .ok d w' ∧
      w'.forest.content d = .document [] ∧
      w'.forest.textContent d = String.join (Source.keptTexts b.keepBlank sources) ∧
      List.Forall₂ (Assembly.StandsFor b.keepBlank w'.forest) (w'.forest.elements d)
        (Source.tags sources)) := by
  cases hfault : Source.fault? sources with
  | none =>
    obtain ⟨hnamed, hwritable⟩ := Source.fault?_eq_none_iff.1 hfault
    obtain ⟨f, g, hrun, hf, hdepicts, hshape, -⟩ :=
      Assembly.exists_run_fromSources b.keepBlank hfault hw
    rw [hf.shape_eq] at hshape
    obtain ⟨hcontent, hchildren⟩ := Tree.node.inj hshape
    have helements := Assembly.forall₂_elements hf hdepicts hchildren
    rw [← Forest.elementChildren, ← hf.elements_eq] at helements
    have htext := Assembly.textContent_of_children hf (by simp [hcontent, Content.type])
      (hchildren ▸ hdepicts)
    exact Or.inr ⟨hnamed, hwritable, _, _, hrun, hcontent, htext, helements⟩
  | some e =>
    obtain ⟨w', hrun⟩ := Assembly.exists_run_fromSources_fault b.keepBlank hfault hw
    refine Or.inl ⟨fun h ↦ ?_, e, w', rfl, hrun⟩
    rw [Source.fault?_eq_none_iff.2 h] at hfault
    cases hfault

/-- A list of two items, a comment in the first, with blanks between them. -/
def mixedSources : List Source :=
  [.tag "ul" .empty
    [.tag "li" .empty [.string .text "a", .string .comment "c", .string .text " "],
      .string .text "\n", .tag "li" .empty [.string .text "b"]],
    .string .instruction "x"]

/-- The list, assembled with its blanks: the text of each element is that of its tag. -/
theorem Builder.texts_in_order_mixed :
    (default : Workshop).forest.WellLinked ∧ ∃ d w',
      ((Builder.mk none true).assemble mixedSources).run default = .ok d w' ∧
        w'.forest.textContent d = "a \nb" ∧
        (w'.forest.elements d).map w'.forest.textContent = ["a \nb", "a ", "b"] := by
  have hlinked : (default : Workshop).forest.WellLinked := Forest.wellLinked_empty
  have hnamed : Source.Named mixedSources := by simp [mixedSources, Source.Named]
  have hwritable : Source.Writable mixedSources := by
    simp [mixedSources, Source.Writable, Source.shown, TagAttributes.shown, TagAttributes.empty]
  rcases Builder.texts_in_order ⟨none, true⟩ mixedSources hlinked with
    ⟨hnot, -⟩ | ⟨-, -, d, w', hrun, -, htext, helements⟩
  · exact absurd ⟨hnamed, hwritable⟩ hnot
  · have hdocument : String.join (Source.keptTexts true mixedSources) = "a \nb" := by
      simp [mixedSources, Source.keptTexts, Source.strings]
    have htexts : (Source.tags mixedSources).map
        (fun t ↦ String.join (Source.keptTexts true t.contents)) = ["a \nb", "a ", "b"] := by
      simp [mixedSources, Source.tags, Source.keptTexts, Source.strings]
    refine ⟨hlinked, d, w', hrun, htext.trans hdocument, Eq.trans ?_ htexts⟩
    rw [← List.forall₂_eq_eq_eq, List.forall₂_map_left_iff, List.forall₂_map_right_iff]
    exact List.Forall₂.imp (fun i t h ↦ h.text_eq) helements

end TreePath
