import TreePath.Markup.Builder
import TreePath.Proofs.Forest.Growing
import TreePath.Proofs.Markup.Depicting

/-!
# What a builder assembles

The assembly of a source succeeds if the source has no fault, and the document has the shape that
the source stands for (`Source.Depicts`); the links agree, everything below the document belongs to
it, and the last report counts the tags. Otherwise the assembly fails with the fault, which for tags
that all have names is that of the first attribute value that cannot be written
(`Builder.assembles_depicted`).

The assembly does to the forest what planting a grove does that the source stands for
(`Assembly.run_convert`), and reports what it skips on the way; what planting does is said in
`TreePath.Proofs.Forest.Growing`. The elements that the last report counts are found by a search of
the document, and the search passes every tag, since a tag stands in tags only
(`Assembly.length_passing`).

A fault is raised where the assembly comes to it (`Assembly.exists_run_convert_fault`). Until then
the assembly goes well, so the induction needs both what is in front of the faulty tag, which was
planted already, and that planting it left the links in agreement.
-/

namespace TreePath

namespace Assembly

variable {keepBlank : Bool} {sources : List Source} {g : Grove Content}

/-- A search for elements passes every tag. -/
theorem length_passing (h : Source.Depicts keepBlank sources g) :
    (Tree.passing Content.isElement g).length = Source.countTags sources := by
  induction h with
  | nil => simp [Tree.passing, Source.countTags]
  | @tag name _ _ _ a _ _ _ _ _ _ ihcontents ihrest =>
    have helement : (Content.element name a).isElement = true := rfl
    rw [Tree.passing, if_pos helement, List.length_append, List.length_cons, ihcontents, ihrest,
      Source.countTags]
  | @comment text _ _ _ ih =>
    have hcomment : (Content.comment text).isElement = false := rfl
    simp [Tree.passing, hcomment, ih, Source.countTags]
  | @kept text _ _ _ _ _ ih =>
    have htext : (Content.text text).isElement = false := rfl
    simp [Tree.passing, htext, ih, Source.countTags]
  | dropped _ _ ih => rw [ih, Source.countTags]
  | skipped _ _ _ ih => rw [ih, Source.countTags]

/-! ### The assembly of a source -/

/-- The reports of what is skipped, in order. -/
def skipRecords : List Source → List Record
  | [] => []
  | .tag _ _ contents :: rest => skipRecords contents ++ skipRecords rest
  | .string .comment _ :: rest => skipRecords rest
  | .string .text _ :: rest => skipRecords rest
  | .string kind text :: rest => skipRecord kind text :: skipRecords rest

/-- An edit that succeeds changes the forest of a workshop only. -/
theorem run_edit {α : Type} {e : Edit α} {a : α} {w : Workshop} {f : Forest}
    (h : e.run w.forest = .ok a f) : (edit e).run w = .ok a { w with forest := f } := by
  have h' : e w.forest = .ok a f := h
  rw [EStateM.run, edit, h']

/-- A tag becomes the next node, an element that belongs to the document. -/
theorem run_makeElement (document : NodeId) {name : String} {attributes : TagAttributes}
    {c : Content} (h : elementOf name attributes = .ok c) (w : Workshop) :
    (makeElement document name attributes).run w =
      .ok w.forest.size { w with forest := w.forest.add c (some document) } := by
  rw [makeElement, h]
  rfl

/-- A tag with a fault becomes none, and nothing has changed. -/
theorem run_makeElement_fault (document : NodeId) {name : String} {attributes : TagAttributes}
    {e : AssemblyError} (h : attributes.fault? name = some e) (w : Workshop) :
    (makeElement document name attributes).run w = .error e w := by
  rw [makeElement, elementOf_eq_error_iff.2 h]
  rfl

/-- If a leaf can be planted in front of a grove, it can be placed, and the grove planted then. -/
theorem exists_run_place {document p : NodeId} {c : Content} {w : Workshop} {f : Forest}
    (h : (Forest.plantGrove (some document) p (.node c [] :: g)).run w.forest = .ok () f) :
    ∃ f₁, (place document p c).run w = .ok () { w with forest := f₁ } ∧
      (Forest.plantGrove (some document) p g).run f₁ = .ok () f := by
  obtain ⟨i, f₁, f₂, happend, hbelow, hafter⟩ := Forest.exists_of_run_plantGrove_cons h
  obtain rfl : f₁ = f₂ := by simpa [Forest.plantGrove] using hbelow
  have hcreate : (edit (Forest.create c (some document))).run w =
      .ok w.forest.size { w with forest := w.forest.add c (some document) } := run_edit rfl
  refine ⟨f₁, ?_, hafter⟩
  rw [place, EStateM.run_bind, hcreate]
  exact (Forest.run_discard _ _).trans (by rw [run_edit happend])

/-- A leaf that is placed is planted, whatever is assembled after it. -/
theorem run_place_bind {document p : NodeId} {c : Content} {w : Workshop} {f : Forest}
    {m : Assembly Unit} {r : EStateM.Result AssemblyError Workshop Unit}
    (h : (Forest.plantGrove (some document) p (.node c [] :: g)).run w.forest = .ok () f)
    (hm : ∀ f₁, (Forest.plantGrove (some document) p g).run f₁ = .ok () f →
      m.run { w with forest := f₁ } = r) : (place document p c >>= fun _ ↦ m).run w = r := by
  obtain ⟨f₁, hplace, hafter⟩ := exists_run_place h
  rw [EStateM.run_bind, hplace]
  exact hm f₁ hafter

/-- If what a source stands for can be planted, the source is assembled to the same forest, with a
report of each string that is skipped. -/
theorem run_convert (document : NodeId) (h : Source.Depicts keepBlank sources g) :
    ∀ {p : NodeId} {w : Workshop} {f : Forest},
      (Forest.plantGrove (some document) p g).run w.forest = .ok () f →
      (convert keepBlank document p sources).run w =
        .ok () ⟨f, w.records ++ (skipRecords sources).toArray⟩ := by
  induction h with
  | nil =>
    intro p w f hplant
    rw [Forest.plantGrove] at hplant
    obtain rfl : w.forest = f := by simpa using hplant
    simp [convert, skipRecords]
  | @tag name attributes contents rest a _ _ hname ha _ _ ihcontents ihrest =>
    intro p w f hplant
    obtain ⟨i, f₁, f₂, happend, hbelow, hafter⟩ := Forest.exists_of_run_plantGrove_cons hplant
    have hmake := run_makeElement document (elementOf_eq_ok_iff.2 ⟨hname, a, ha, rfl⟩) w
    have happend' := run_edit (w := { w with forest := w.forest.add _ _ }) happend
    have hbelow' := ihcontents (w := { w with forest := f₁ }) hbelow
    have hafter' := ihrest (w := ⟨f₂, w.records ++ (skipRecords contents).toArray⟩) hafter
    rw [convert, EStateM.run_bind, hmake]
    simp [Forest.run_discard, happend', hbelow', hafter', skipRecords]
  | comment _ ih =>
    intro p w f hplant
    rw [convert, skipRecords]
    exact run_place_bind hplant fun _ hafter ↦ ih hafter
  | kept hne hkept _ ih =>
    intro p w f hplant
    have hkeep := keepsText_eq_true_iff.2 ⟨hne, hkept⟩
    rw [convert, skipRecords, if_pos hkeep]
    exact run_place_bind hplant fun _ hafter ↦ ih hafter
  | dropped hdropped _ ih =>
    intro p w f hplant
    have hkeep := keepsText_eq_false_iff.2 hdropped
    rw [convert, skipRecords, hkeep]
    exact ih hplant
  | @skipped kind text rest _ hcomment htext _ ih =>
    intro p w f hplant
    have hrest := ih (w := { w with records := w.records.push (skipRecord kind text) }) hplant
    have hskipped : (report (skipRecord kind text) >>= fun _ ↦
        convert keepBlank document p rest).run w =
          .ok () ⟨f, w.records ++ (skipRecord kind text :: skipRecords rest).toArray⟩ := by
      rw [EStateM.run_bind, report, EStateM.run_modify]
      simpa using hrest
    cases kind with
    | comment => exact absurd rfl hcomment
    | text => exact absurd rfl htext
    | _ =>
      simp only [convert, skipRecords]
      exact hskipped

/-- If what a source stands for can be planted below a new document, the source is assembled to the
forest this leads to, and the tags are counted in the last report. -/
theorem run_fromSources (h : Source.Depicts keepBlank sources g) {w : Workshop} {f : Forest}
    (hplant : (Forest.plantGrove (some w.forest.size) w.forest.size g).run
      (w.forest.add (.document []) none) = .ok () f)
    (hshape : f.shape w.forest.size = .node (.document []) g) :
    (fromSources keepBlank sources).run w =
      .ok w.forest.size ⟨f, w.records ++ (skipRecords sources).toArray ++
        #[builtRecord (Source.countTags sources)]⟩ := by
  have hcreate : (edit (Forest.create (.document []) none)).run w =
      .ok w.forest.size { w with forest := w.forest.add (.document []) none } := run_edit rfl
  have hconvert := run_convert w.forest.size h
    (w := { w with forest := w.forest.add (.document []) none }) hplant
  -- the search goes through the forest, but what it passes can be read off the shape
  have hcount : (f.elements w.forest.size).length = Source.countTags sources := by
    rw [← List.length_map (f := f.content), f.map_content_elements, hshape, Tree.branches_node,
      length_passing h]
  rw [fromSources, EStateM.run_bind, hcreate]
  simp [hconvert, hcount, report, -bind_pure_comp]

/-- A source without a fault is assembled to a document of the shape that it stands for. -/
theorem exists_run_fromSources (keepBlank : Bool) (h : Source.fault? sources = none) {w : Workshop}
    (hw : w.forest.WellLinked) :
    ∃ f g, (fromSources keepBlank sources).run w =
        .ok w.forest.size ⟨f, w.records ++ (skipRecords sources).toArray ++
          #[builtRecord (Source.countTags sources)]⟩ ∧
      f.WellLinked ∧ Source.Depicts keepBlank sources g ∧
      f.shape w.forest.size = .node (.document []) g ∧
      ∀ i, f.IsAbove w.forest.size i → i ≠ w.forest.size → f.owner i = some w.forest.size := by
  obtain ⟨g, hg⟩ := Source.exists_depicts keepBlank h
  obtain ⟨f, hplant, hf, hshape, howner⟩ := hw.run_plantGrove_add (.document []) g
  exact ⟨f, g, run_fromSources hg hplant hshape, hf, hg, hshape, howner⟩

/-! ### Faults -/

/-- A node that is placed below another leaves the links in agreement and loses no node. -/
theorem exists_run_place_leaf (document : NodeId) {p : NodeId} {w : Workshop}
    (hw : w.forest.WellLinked) (hp : p < w.forest.size) (c : Content) :
    ∃ f, (place document p c).run w = .ok () { w with forest := f } ∧ f.WellLinked ∧
      p < f.size := by
  obtain ⟨f, hplant, hgrown⟩ :=
    Forest.WellLinked.run_plantGrove [.node c []] (some document) hw hp Option.some_or
  obtain ⟨f₁, hrun, hrest⟩ := exists_run_place hplant
  obtain rfl : f₁ = f := by simpa [Forest.plantGrove] using hrest
  exact ⟨f₁, hrun, hgrown.wellLinked, Nat.lt_of_lt_of_le hp hgrown.size_le⟩

/-- A source without a fault is assembled below any node. The links agree afterwards, and no node is
lost. -/
theorem exists_run_convert (keepBlank : Bool) (document : NodeId) {p : NodeId} {w : Workshop}
    (h : Source.fault? sources = none) (hw : w.forest.WellLinked) (hp : p < w.forest.size) :
    ∃ f, (convert keepBlank document p sources).run w =
        .ok () ⟨f, w.records ++ (skipRecords sources).toArray⟩ ∧
      f.WellLinked ∧ w.forest.size ≤ f.size := by
  obtain ⟨g, hdepicts⟩ := Source.exists_depicts keepBlank h
  obtain ⟨f, hplant, hgrown⟩ :=
    Forest.WellLinked.run_plantGrove g (some document) hw hp Option.some_or
  exact ⟨f, run_convert document hdepicts hplant, hgrown.wellLinked, hgrown.size_le⟩

/-- A source with a fault is not assembled: the fault is raised. -/
theorem exists_run_convert_fault (keepBlank : Bool) (document : NodeId) (sources : List Source)
    {e : AssemblyError} :
    ∀ {p : NodeId} {w : Workshop}, w.forest.WellLinked → p < w.forest.size →
      Source.fault? sources = some e →
        ∃ w', (convert keepBlank document p sources).run w = .error e w' := by
  induction sources using Source.list_induction with
  | nil =>
    intro p w _ _ h
    rw [Source.fault?] at h
    cases h
  | tag name attributes contents rest ihcontents ihrest =>
    intro p w hw hp h
    rw [Source.fault?] at h
    cases helement : elementOf name attributes with
    | error e' =>
      have htag := elementOf_eq_error_iff.1 helement
      obtain rfl : e' = e := by simpa [htag] using h
      refine ⟨w, ?_⟩
      rw [convert, EStateM.run_bind, run_makeElement_fault document htag]
    | ok c =>
      -- the tag itself becomes an element; the fault is inside or after it
      have htag : attributes.fault? name = none :=
        fault_eq_none_of_ok (fun _ ↦ elementOf_eq_error_iff) helement
      rw [htag, Option.none_or] at h
      have howner : (some document).or (w.forest.owner p) = some document := Option.some_or
      obtain ⟨f₁, happend, hchildren, hgrown₁⟩ := hw.exists_sprout hp howner c
      have hisize : w.forest.size < f₁.size :=
        hgrown₁.wellLinked.child_lt_size (p := p) (by simp [hchildren])
      have hmake := run_makeElement document helement w
      have happend' := run_edit (w := { w with forest := w.forest.add _ _ }) happend
      cases hcontents : Source.fault? contents with
      | some e' =>
        obtain rfl : e' = e := by simpa [hcontents] using h
        obtain ⟨w', hbelow⟩ :=
          ihcontents (w := { w with forest := f₁ }) hgrown₁.wellLinked hisize hcontents
        refine ⟨w', ?_⟩
        rw [convert, EStateM.run_bind, hmake]
        simp [Forest.run_discard, happend', hbelow]
      | none =>
        rw [hcontents, Option.none_or] at h
        obtain ⟨f₂, hbelow, hf₂, hsize₂⟩ := exists_run_convert keepBlank document hcontents
          (w := { w with forest := f₁ }) hgrown₁.wellLinked hisize
        have hp₂ : p < f₂.size := Nat.lt_of_lt_of_le hp (hgrown₁.size_le.trans hsize₂)
        obtain ⟨w', hafter⟩ :=
          ihrest (w := ⟨f₂, w.records ++ (skipRecords contents).toArray⟩) hf₂ hp₂ h
        refine ⟨w', ?_⟩
        rw [convert, EStateM.run_bind, hmake]
        simp [Forest.run_discard, happend', hbelow, hafter]
  | string kind text rest ih =>
    intro p w hw hp h
    rw [Source.fault?] at h
    have hplaced (c : Content) : ∃ w', (place document p c >>= fun _ ↦
        convert keepBlank document p rest).run w = .error e w' := by
      obtain ⟨f, hplace, hf, hpf⟩ := exists_run_place_leaf document hw hp c
      obtain ⟨w', hafter⟩ := ih (w := { w with forest := f }) hf hpf h
      exact ⟨w', by rw [EStateM.run_bind, hplace]; exact hafter⟩
    have hskipped : ∃ w', (report (skipRecord kind text) >>= fun _ ↦
        convert keepBlank document p rest).run w = .error e w' := by
      obtain ⟨w', hafter⟩ :=
        ih (w := { w with records := w.records.push (skipRecord kind text) }) hw hp h
      exact ⟨w', by rw [EStateM.run_bind, report, EStateM.run_modify]; exact hafter⟩
    cases kind with
    | comment =>
      rw [convert]
      exact hplaced _
    | text =>
      rw [convert]
      cases hkeep : keepsText keepBlank text with
      | true => simpa [hkeep] using hplaced (.text text)
      | false => simpa [hkeep] using ih hw hp h
    | _ =>
      simp only [convert]
      exact hskipped

/-- Nor is a document made of it. -/
theorem exists_run_fromSources_fault (keepBlank : Bool) {e : AssemblyError}
    (h : Source.fault? sources = some e) {w : Workshop} (hw : w.forest.WellLinked) :
    ∃ w', (fromSources keepBlank sources).run w = .error e w' := by
  have hcreate : (edit (Forest.create (.document []) none)).run w =
      .ok w.forest.size { w with forest := w.forest.add (.document []) none } := run_edit rfl
  have hsize : w.forest.size < (w.forest.add (.document []) none).size := by
    rw [Forest.size_add]
    exact Nat.lt_succ_self _
  obtain ⟨w', hconvert⟩ := exists_run_convert_fault keepBlank w.forest.size sources
    (w := { w with forest := w.forest.add (.document []) none }) (hw.add _ _) hsize h
  refine ⟨w', ?_⟩
  rw [fromSources, EStateM.run_bind, hcreate]
  simp [hconvert]

end Assembly

/-! ### The document -/

/-- **A builder makes the document that a source stands for.** Let every tag have a name. If all
that has to be written for the attributes can be, the assembly succeeds. The links of the document
agree, it has the shape that the source stands for, everything below it belongs to it, and what is
reported is each string that is skipped and, at the end, how many tags there are. Otherwise the
assembly fails with what is wrong with the first literal that cannot be written. -/
theorem Builder.assembles_depicted (b : Builder) {sources : List Source}
    (hnamed : Source.Named sources) {w : Workshop} (hw : w.forest.WellLinked) :
    (Source.Writable sources → ∃ w' g,
      (b.assemble sources).run w = .ok w.forest.size w' ∧
        w'.forest.WellLinked ∧
        Source.Depicts b.keepBlank sources g ∧
        w'.forest.shape w.forest.size = .node (.document []) g ∧
        (∀ i, w'.forest.IsAbove w.forest.size i → i ≠ w.forest.size →
          w'.forest.owner i = some w.forest.size) ∧
        w'.records = w.records ++ (Assembly.skipRecords sources).toArray ++
          #[Assembly.builtRecord (Source.countTags sources)]) ∧
      ∀ e, Literal.writingFaultAmong? (Source.shown sources) = some e →
        ∃ w', (b.assemble sources).run w = .error (.unwritable e) w' := by
  constructor
  · intro hwritable
    have hnone := Source.fault?_eq_none_iff.2 ⟨hnamed, hwritable⟩
    obtain ⟨f, g, hrun, hlinked, hdepicts, hshape, howner⟩ :=
      Assembly.exists_run_fromSources b.keepBlank hnone hw
    exact ⟨_, g, hrun, hlinked, hdepicts, hshape, howner, rfl⟩
  · intro e he
    have hfault : Source.fault? sources = some (.unwritable e) := by
      rw [hnamed.fault?_eq, he]
      rfl
    exact Assembly.exists_run_fromSources_fault b.keepBlank hfault hw

/-- Attributes of five kinds: nothing, a list, a number, a text and a tuple. -/
def sampleAttributes : TagAttributes :=
  .ofPairs [("id", .none), ("class", .list [.text "a", .int 2]), ("n", .int 7),
    ("title", .text "it's"), ("span", .tuple [.text "x", .none])]

/-- A document type, a comment, and a tag around a text and blanks. -/
def sampleSources : List Source :=
  [.string .doctype "html", .string .comment "c",
    .tag "ul" sampleAttributes
      [.string .text " \n", .tag "li" .empty [.string .text "one"], .string .text ""]]

theorem writable_sampleSources : Source.Writable sampleSources := by
  have hshown : Source.shown sampleSources = sampleAttributes.shown := by
    simp [sampleSources, Source.shown, TagAttributes.shown, TagAttributes.empty]
  rw [Source.writable_iff, hshown]
  rfl

/-- A tag with a list for an attribute in which a path has no steps any more. -/
def takenSources : List Source :=
  [.tag "a" (.ofPairs [("to", .list [.text "x", .path 0 none])]) []]

/-- The sample, assembled without its blanks and with them; and a source that is not assembled. -/
theorem assembles_depicted_sample :
    Source.Named sampleSources ∧ Source.Writable sampleSources ∧
      (default : Workshop).forest.WellLinked ∧
      (∃ w', ((Builder.mk none false).assemble sampleSources).run default = .ok 0 w' ∧
        w'.forest.shape 0 = .node (.document [])
          [.node (.comment "c") [],
            .node (.element "ul" (.ofPairs [("id", ""), ("class", "a 2"), ("n", "7"),
                ("title", "it's"), ("span", "x None")]))
              [.node (.element "li" .empty) [.node (.text "one") []]]] ∧
        w'.records = #[Assembly.skipRecord .doctype "html", Assembly.builtRecord 2]) ∧
      (∃ w', ((Builder.mk none true).assemble sampleSources).run default = .ok 0 w' ∧
        w'.forest.shape 0 = .node (.document [])
          [.node (.comment "c") [],
            .node (.element "ul" (.ofPairs [("id", ""), ("class", "a 2"), ("n", "7"),
                ("title", "it's"), ("span", "x None")]))
              [.node (.text " \n") [], .node (.element "li" .empty) [.node (.text "one") []]]]) ∧
      Source.Named takenSources ∧
      ∃ w', ((Builder.mk none true).assemble takenSources).run default =
        .error (.unwritable .stepsTaken) w' := by
  have hnamed : Source.Named sampleSources := by simp [sampleSources, Source.Named]
  have hwritable : Source.Writable sampleSources := writable_sampleSources
  have hlinked : (default : Workshop).forest.WellLinked := Forest.wellLinked_empty
  have hattributes : sampleAttributes.Lists (.ofPairs [("id", ""), ("class", "a 2"), ("n", "7"),
      ("title", "it's"), ("span", "x None")]) := Assembly.attributesOf_eq_ok_iff.1 rfl
  have hempty : TagAttributes.empty.Lists .empty := .nil
  have hone : ∃ c ∈ "one".toList, Text.isBlank c = false := ⟨'o', .head _, by decide⟩
  have hblank : ∀ c ∈ " \n".toList, Text.isBlank c = true := List.all_eq_true.1 (by decide)
  have hitem {keepBlank : Bool} : Source.Depicts keepBlank
      [.tag "li" .empty [.string .text "one"], .string .text ""]
      [.node (.element "li" .empty) [.node (.text "one") []]] :=
    .tag (by decide) hempty (.kept (by decide) (.inr hone) .nil) (.dropped (.inl rfl) .nil)
  refine ⟨hnamed, hwritable, hlinked, ?_, ?_, ?_⟩
  · obtain ⟨w', g, hrun, -, hdepicts, hshape, -, hrecords⟩ :=
      (Builder.assembles_depicted ⟨none, false⟩ hnamed hlinked).1 hwritable
    have hgrove : Source.Depicts false sampleSources _ :=
      .skipped (by simp) (by simp) (.comment (.tag (by decide) hattributes
        (.dropped (.inr ⟨rfl, hblank⟩) hitem) .nil))
    have hbefore : (default : Workshop).records = #[] := rfl
    refine ⟨w', hrun, ?_, ?_⟩
    · rw [hdepicts.unique hgrove] at hshape
      exact hshape
    · rw [hrecords, hbefore]
      simp [sampleSources, Assembly.skipRecords, Source.countTags]
  · obtain ⟨w', g, hrun, -, hdepicts, hshape, -, -⟩ :=
      (Builder.assembles_depicted ⟨none, true⟩ hnamed hlinked).1 hwritable
    have hgrove : Source.Depicts true sampleSources _ :=
      .skipped (by simp) (by simp) (.comment (.tag (by decide) hattributes
        (.kept (by decide) (.inl rfl) hitem) .nil))
    rw [hdepicts.unique hgrove] at hshape
    exact ⟨w', hrun, hshape⟩
  · have htaken : Source.Named takenSources := by simp [takenSources, Source.Named]
    have hfault : Literal.writingFaultAmong? (Source.shown takenSources) = some .stepsTaken := by
      simp only [takenSources, Source.shown]
      rfl
    exact ⟨htaken, (Builder.assembles_depicted ⟨none, true⟩ htaken hlinked).2 _ hfault⟩

/-- A tag with a number for an attribute that has one digit too many. -/
def overlongSources : List Source :=
  [.tag "a" (.ofPairs [("n", .int (Nat.pow 10 Decimal.digitLimit : Nat))]) []]

theorem writingFaultAmong?_shown_long {n : Nat} (hn : Nat.pow 10 Decimal.digitLimit ≤ n) :
    Literal.writingFaultAmong? (TagAttributes.ofPairs [("n", .int n)]).shown =
      some .tooManyDigits := by
  have hshown : (TagAttributes.ofPairs [("n", .int n)]).shown = [.int n] := rfl
  have hlong : Decimal.isTooLong n = true := Decimal.isTooLong_iff.2 (by rwa [Int.natAbs_natCast])
  rw [hshown, Literal.writingFaultAmong?, Literal.writingFault?, if_pos hlong, Option.some_or]

/-- Not every source is assembled in which all tags have names: to write the number fails. -/
theorem not_assembles_overlong :
    Source.Named overlongSources ∧ (default : Workshop).forest.WellLinked ∧
      ∃ w', ((Builder.mk none false).assemble overlongSources).run default =
        .error (.unwritable .tooManyDigits) w' := by
  have hnamed : Source.Named overlongSources := by
    rw [overlongSources, Source.Named]
    exact ⟨by decide, by simp [Source.Named], by simp [Source.Named]⟩
  have hlinked : (default : Workshop).forest.WellLinked := Forest.wellLinked_empty
  have hfault : Source.fault? overlongSources = some (.unwritable .tooManyDigits) := by
    rw [hnamed.fault?_eq]
    simp only [overlongSources, Source.shown, List.append_nil]
    rw [writingFaultAmong?_shown_long (Nat.le_refl _)]
    rfl
  exact ⟨hnamed, hlinked, Assembly.exists_run_fromSources_fault false hfault hlinked⟩

end TreePath
