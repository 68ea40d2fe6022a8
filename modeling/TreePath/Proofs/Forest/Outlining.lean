import TreePath.Forest.Access
import TreePath.Proofs.Forest.Growing
import TreePath.Text.Split

/-!
# What an outline says

The outline of a document counts its elements, texts and comments and lists its elements, one on a
line, indented by their level. It is made by two recursions on the shape of the document; both agree
with the search for elements (`WellLinked.census_shape`, `WellLinked.listing_skeleton`), so the
count is that of the elements found, and the lines are theirs, in the same order.

Conversely, where no name has a line end in it or begins with a blank, the outline can be read: its
text falls apart into its lines (`Text.split_intercalate`), a line into its level and its name
(`entry_injective`), and the levels and names of a skeleton, each before those below it, tell which
skeleton it is (`listing_injective`). So two documents have the same outline, taken deep enough,
exactly if they have the same skeleton and the same counts (`Forest.outline_faithful`).
-/

namespace TreePath

namespace Outline

/-! ### Skeletons -/

/-- The names of the elements of a grove, each over those below it. -/
def skeleton : Grove Content → Grove String
  | [] => []
  | .node c ts :: rest =>
    (if c.isElement then [.node c.nodeName (skeleton ts)] else []) ++ skeleton rest

/-- The names of a skeleton with their levels, each before those below it. -/
def listing : Nat → Grove String → List (Nat × String)
  | _, [] => []
  | level, .node name ts :: rest => (level, name) :: (listing (level + 1) ts ++ listing level rest)

/-- The line of a name: two spaces a level, and the name. -/
def entry (e : Nat × String) : String :=
  String.ofList (List.replicate (2 * e.1) ' ') ++ e.2

/-- The lines that tell the counts. -/
def header (c : Census) : List String :=
  ["Document Structure:",
    "Element count: " ++ toString c.elements,
    "Text node count: " ++ toString c.texts,
    "Comment count: " ++ toString c.comments]

/-- The lines of an outline, by the counts and the skeleton of what is outlined. -/
def page (maxLevel : Int) (c : Census) (s : Grove String) : List String :=
  header c ++
  if s.isEmpty then []
  else "\nElement tree:" ::
    ((listing 0 s).filter fun e ↦ decide ((e.1 : Int) ≤ maxLevel)).map entry

/-- The lines of two groves side by side come one after the other. -/
theorem listing_append (level : Nat) (s t : Grove String) :
    listing level (s ++ t) = listing level s ++ listing level t := by
  induction s with
  | nil => rw [List.nil_append, listing, List.nil_append]
  | cons u rest ih =>
    obtain ⟨name, ts⟩ := u
    rw [List.cons_append, listing, listing, ih, List.cons_append, List.append_assoc]

/-- There is a line if there is a tree. -/
theorem isEmpty_listing (level : Nat) (s : Grove String) :
    (listing level s).isEmpty = s.isEmpty := by
  cases s with
  | nil => rw [listing, List.isEmpty_nil, List.isEmpty_nil]
  | cons t rest =>
    obtain ⟨name, ts⟩ := t
    rw [listing, List.isEmpty_cons, List.isEmpty_cons]

/-- Nothing in a listing stands higher than its top. -/
theorem le_of_mem_listing {level : Nat} {s : Grove String} {e : Nat × String}
    (h : e ∈ listing level s) : level ≤ e.1 := by
  induction s using Tree.grove_induction generalizing level with
  | nil => simp [listing] at h
  | cons name ts rest ihts ihrest =>
    rw [listing] at h
    rcases List.mem_cons.1 h with rfl | h
    · exact Nat.le_refl _
    · rcases List.mem_append.1 h with h | h
      · exact Nat.le_of_succ_le (ihts h)
      · exact ihrest h

/-- Further down, the same names stand further down. -/
theorem listing_add (level k : Nat) (s : Grove String) :
    listing (level + k) s = (listing level s).map fun e ↦ (e.1 + k, e.2) := by
  induction s using Tree.grove_induction generalizing level with
  | nil => simp [listing]
  | cons name ts rest ihts ihrest =>
    rw [listing, listing, ihrest, Nat.add_right_comm, ihts, List.map_cons, List.map_append]

/-! ### The lines -/

/-- The elements down to a level are what the skeleton lists down to it. -/
theorem map_levels (maxLevel : Int) (level : Nat) (g : Grove Content) :
    (levels maxLevel level g).map (fun e ↦ (e.1, e.2.nodeName)) =
      (listing level (skeleton g)).filter fun e ↦ decide ((e.1 : Int) ≤ maxLevel) := by
  induction g using Tree.grove_induction generalizing level with
  | nil => simp [levels, skeleton, listing]
  | cons c ts rest ihts ihrest =>
    rw [levels, skeleton, listing_append, List.map_append, List.filter_append, ihrest]
    refine congrArg (· ++ _) ?_
    cases hc : c.isElement with
    | false => simp [listing]
    | true =>
      rw [if_pos rfl, listing, listing, List.append_nil]
      by_cases hlevel : (level : Int) ≤ maxLevel
      · simp [hlevel, ihts]
      · -- below an element that is too deep everything is
        have hbelow : ∀ e ∈ listing (level + 1) (skeleton ts), ¬ (e.1 : Int) ≤ maxLevel := by
          intro e he hle
          have hdeeper := le_of_mem_listing he
          omega
        simpa [hlevel] using hbelow

/-- What is outlined is an element that a search comes to. -/
theorem mem_passing_of_mem_levels {maxLevel : Int} {level : Nat} {g : Grove Content}
    {e : Nat × Content} (h : e ∈ levels maxLevel level g) :
    e.2 ∈ Tree.passing Content.isElement g := by
  induction g using Tree.grove_induction generalizing level with
  | nil => simp [levels] at h
  | cons c ts rest ihts ihrest =>
    rw [levels] at h
    rw [Tree.passing]
    rcases List.mem_append.1 h with h | h
    · split at h
      · next hc =>
        rw [if_pos (Bool.and_eq_true_iff.1 hc).1]
        refine List.mem_append_left _ ?_
        rcases List.mem_cons.1 h with rfl | h
        · exact List.mem_cons_self
        · exact List.mem_cons_of_mem _ (ihts h)
      · cases h
    · exact List.mem_append_right _ (ihrest h)

/-- Every element with a name has a line. -/
theorem mapM_line? {es : List (Nat × Content)}
    (h : ∀ e ∈ es, e.2.isElement = true ∧ e.2.isNamed = true) :
    es.mapM line? = some ((es.map fun e ↦ (e.1, e.2.nodeName)).map entry) := by
  induction es with
  | nil => rfl
  | cons e rest ih =>
    obtain ⟨⟨helement, hnamed⟩, hrest⟩ := List.forall_mem_cons.1 h
    have hline : line? e = some (entry (e.1, e.2.nodeName)) := by
      obtain ⟨name, attributes, hc⟩ := Content.exists_eq_element helement hnamed
      rw [line?, hc]
      rfl
    rw [List.mapM_cons, hline, ih hrest]
    rfl

/-- A skeleton is empty if none of the trees is of an element. -/
theorem isEmpty_skeleton (g : Grove Content) :
    (skeleton g).isEmpty = !g.any fun t ↦ t.label.isElement := by
  induction g with
  | nil => simp [skeleton]
  | cons t rest ih =>
    obtain ⟨c, ts⟩ := t
    rw [skeleton, List.any_cons, Tree.label_node]
    cases c.isElement with
    | true => simp
    | false => simpa using ih

/-- The lines of an outline are made of the counts and the skeleton. -/
theorem lines?_eq {g : Grove Content}
    (hnamed : ∀ c ∈ Tree.passing Content.isElement g, c.isNamed = true) (maxLevel : Int) :
    lines? maxLevel g = some (page maxLevel (census g) (skeleton g)) := by
  have htree : (levels maxLevel 0 g).mapM line? = _ := mapM_line? fun e he ↦ by
    have hmem := mem_passing_of_mem_levels he
    exact ⟨Tree.of_mem_passing hmem, hnamed _ hmem⟩
  rw [map_levels] at htree
  rw [lines?, page, isEmpty_skeleton, htree]
  cases g.any fun t ↦ t.label.isElement with
  | true => rfl
  | false => rfl

/-! ### Reading a listing -/

/-- Where a listing meets the names that stand above it, it ends. -/
theorem takeWhile_listing (level : Nat) (ts rest : Grove String) :
    (listing (level + 1) ts ++ listing level rest).takeWhile (fun e ↦ decide (level < e.1)) =
      listing (level + 1) ts := by
  have hbelow : ∀ e ∈ listing (level + 1) ts, decide (level < e.1) = true :=
    fun e he ↦ decide_eq_true (le_of_mem_listing he)
  have hrest : (listing level rest).takeWhile (fun e ↦ decide (level < e.1)) = [] := by
    cases rest with
    | nil => rw [listing, List.takeWhile_nil]
    | cons t rest =>
      obtain ⟨name, ts⟩ := t
      rw [listing, List.takeWhile_cons_of_neg (by simp)]
  rw [List.takeWhile_append_of_pos hbelow, hrest, List.append_nil]

/-- The names of a skeleton and their levels tell which skeleton it is. -/
theorem listing_injective (level : Nat) : Function.Injective (listing level) := by
  intro s
  induction s using Tree.grove_induction generalizing level with
  | nil =>
    intro t h
    cases t with
    | nil => rfl
    | cons u t =>
      obtain ⟨name, ts⟩ := u
      simp [listing] at h
  | cons name ts rest ihts ihrest =>
    intro t h
    cases t with
    | nil => simp [listing] at h
    | cons u rest' =>
      obtain ⟨name', ts'⟩ := u
      rw [listing, listing] at h
      obtain ⟨hname, hbelow⟩ := List.cons.inj h
      -- what is below the first name is what stands deeper than it, up to the next that does not
      have hts : listing (level + 1) ts = listing (level + 1) ts' := by
        rw [← takeWhile_listing level ts rest, hbelow, takeWhile_listing]
      rw [hts] at hbelow
      rw [(Prod.mk.inj hname).2, ihts (level + 1) hts,
        ihrest level (List.append_cancel_left hbelow)]

/-! ### Reading an outline -/

/-- A name that stands in a line of its own, from the first character after the blanks on. -/
def Fits (name : String) : Prop :=
  '\n' ∉ name.toList ∧ name.toList.head? ≠ some ' '

instance (name : String) : Decidable (Fits name) :=
  inferInstanceAs (Decidable (_ ∧ _))

/-- A line is a name after two blanks for each level. -/
theorem toList_entry (e : Nat × String) :
    (entry e).toList = List.replicate (2 * e.1) ' ' ++ e.2.toList := by
  rw [entry, String.toList_append, String.toList_ofList]

/-- A line tells the level and the name. -/
theorem entry_injective {e e' : Nat × String} (he : Fits e.2) (he' : Fits e'.2)
    (h : entry e = entry e') : e = e' := by
  have hblanks (e : Nat × String) (he : Fits e.2) :
      (entry e).toList.takeWhile (· == ' ') = List.replicate (2 * e.1) ' ' := by
    rw [toList_entry, List.takeWhile_append_of_pos (by simp)]
    cases hname : e.2.toList with
    | nil => simp
    | cons c rest =>
      have hc : c ≠ ' ' := by simpa [hname] using he.2
      simp [hc]
  have hlevel : 2 * e.1 = 2 * e'.1 := by
    have heq : List.replicate (2 * e.1) ' ' = List.replicate (2 * e'.1) ' ' := by
      rw [← hblanks e he, h, hblanks e' he']
    simpa using congrArg List.length heq
  have hname : e.2.toList = e'.2.toList := by
    have hlist := congrArg String.toList h
    rw [toList_entry, toList_entry, hlevel] at hlist
    exact List.append_cancel_left hlist
  exact Prod.ext (Nat.eq_of_mul_eq_mul_left Nat.two_pos hlevel) (String.toList_injective hname)

/-- Lines tell the levels and the names. -/
theorem eq_of_map_entry {es es' : List (Nat × String)} (hes : ∀ e ∈ es, Fits e.2)
    (hes' : ∀ e ∈ es', Fits e.2) (h : es.map entry = es'.map entry) : es = es' := by
  induction es generalizing es' with
  | nil => exact (List.map_eq_nil_iff.1 h.symm).symm
  | cons e rest ih =>
    rw [List.map_cons, eq_comm, List.map_eq_cons_iff] at h
    obtain ⟨e', rest', rfl, hentry, hrest⟩ := h
    obtain ⟨he, hes⟩ := List.forall_mem_cons.1 hes
    obtain ⟨he', hes'⟩ := List.forall_mem_cons.1 hes'
    rw [entry_injective he he' hentry.symm, ih hes hes' hrest.symm]

/-- It is one line if the name is. -/
theorem not_mem_entry {e : Nat × String} (he : Fits e.2) : '\n' ∉ (entry e).toList := by
  rw [toList_entry, List.mem_append, not_or]
  exact ⟨fun hmem ↦ absurd (List.eq_of_mem_replicate hmem) (by decide), he.1⟩

/-- A number is written on one line. -/
theorem not_mem_toDigits (n : Nat) : '\n' ∉ Nat.toDigits 10 n := by
  intro hmem
  exact absurd (Nat.isDigit_of_mem_toDigits (by decide) (by decide) hmem) (by decide)

/-- So is each line of the head. -/
theorem not_mem_of_mem_header {c : Census} : ∀ l ∈ header c, '\n' ∉ l.toList := by
  simp [header, not_mem_toDigits]

/-- A number can be read off its digits. -/
theorem repr_injective : Function.Injective Nat.repr := by
  intro m n h
  have hdigits : Nat.toDigits 10 m = Nat.toDigits 10 n := by simpa using congrArg String.toList h
  have hread := congrArg (fun cs ↦ Nat.ofDigitChars 10 cs 0) hdigits
  simpa [Nat.ofDigitChars_ten_toDigits] using hread

/-- The counts can be read off the lines that tell them. -/
theorem header_injective : Function.Injective header := by
  intro c c' h
  obtain ⟨elements, texts, comments⟩ := c
  obtain ⟨elements', texts', comments'⟩ := c'
  simpa [header, repr_injective.eq_iff] using h

/-- What a text shows whose lines are those of an outline. -/
theorem split_intercalate_page {maxLevel : Int} {s : Grove String}
    (hdeep : ∀ e ∈ listing 0 s, (e.1 : Int) ≤ maxLevel) (hfits : ∀ e ∈ listing 0 s, Fits e.2)
    (c : Census) :
    Text.split '\n' ("\n".intercalate (page maxLevel c s)) =
      header c ++ if s.isEmpty then [] else "" :: "Element tree:" :: (listing 0 s).map entry := by
  have hline {ls : List String} (h : ∀ l ∈ ls, '\n' ∉ l.toList) :
      ls.flatMap (Text.split '\n') = ls := by
    rw [List.flatMap_congr fun l hl ↦ Text.split_of_not_mem (h l hl), List.flatMap_singleton']
  have hentries : ∀ l ∈ (listing 0 s).map entry, '\n' ∉ l.toList :=
    List.forall_mem_map.2 fun e he ↦ not_mem_entry (hfits e he)
  have hall : (listing 0 s).filter (fun e ↦ decide ((e.1 : Int) ≤ maxLevel)) = listing 0 s :=
    List.filter_eq_self.2 fun e he ↦ decide_eq_true (hdeep e he)
  have hpage : page maxLevel c s ≠ [] := by simp [page, header]
  refine (Text.split_intercalate '\n' hpage).trans ?_
  rw [page, hall, List.flatMap_append, hline not_mem_of_mem_header]
  cases s.isEmpty with
  | true => rfl
  | false =>
    rw [if_neg Bool.false_ne_true, if_neg Bool.false_ne_true, List.flatMap_cons, hline hentries]
    rfl

/-- Two outlines that are deep enough are the same only if the counts and the skeletons are. -/
theorem page_injective {maxLevel : Int} {s s' : Grove String}
    (hdeep : ∀ e ∈ listing 0 s, (e.1 : Int) ≤ maxLevel) (hfits : ∀ e ∈ listing 0 s, Fits e.2)
    (hdeep' : ∀ e ∈ listing 0 s', (e.1 : Int) ≤ maxLevel) (hfits' : ∀ e ∈ listing 0 s', Fits e.2)
    {c c' : Census}
    (h : "\n".intercalate (page maxLevel c s) = "\n".intercalate (page maxLevel c' s')) :
    c = c' ∧ s = s' := by
  have hlines := congrArg (Text.split '\n') h
  rw [split_intercalate_page hdeep hfits, split_intercalate_page hdeep' hfits'] at hlines
  obtain ⟨hheader, htree⟩ := List.append_inj hlines rfl
  refine ⟨header_injective hheader, ?_⟩
  cases s with
  | nil =>
    cases s' with
    | nil => rfl
    | cons u t => cases htree
  | cons u t =>
    cases s' with
    | nil => cases htree
    | cons u' t' =>
      rw [List.isEmpty_cons, List.isEmpty_cons] at htree
      simp only [Bool.false_eq_true, if_false, List.cons.injEq, true_and] at htree
      exact listing_injective 0 (eq_of_map_entry hfits hfits' htree)

end Outline

/-! ### The outline of a document -/

namespace Forest

open Outline

variable {f f' : Forest}

/-- The names of the elements below a node, each over those below it. -/
def skeleton (f : Forest) (i : NodeId) : Grove String :=
  Outline.skeleton (f.shape i).branches

/-- How many nodes of a kind there are just below a node and its elements. -/
def countBelow (f : Forest) (i : NodeId) (t : NodeType) : Nat :=
  ((i :: f.elements i).flatMap f.children).countP fun c ↦ (f.content c).type == t

/-- The lines of the outline of a node: the counts, and one for each element that is not deeper
than the limit, where the top level has depth zero. -/
def outlineLines (f : Forest) (i : NodeId) (maxLevel : Int) : List String :=
  header ⟨(f.elements i).length, f.countBelow i .text, f.countBelow i .comment⟩ ++
  if (f.elements i).isEmpty then []
  else "\nElement tree:" ::
    ((f.elements i).filter fun x ↦ decide (((f.depthBelow i x - 1 : Nat) : Int) ≤ maxLevel)).map
      fun x ↦ entry (f.depthBelow i x - 1, (f.content x).nodeName)

/-- A document whose elements all have names. -/
structure Outlined (f : Forest) (d : NodeId) : Prop where
  /-- The links agree. -/
  wellLinked : f.WellLinked
  /-- It is a document. -/
  content_eq : ∃ errors, f.content d = .document errors
  /-- Its elements have names. -/
  isNamed : ∀ x ∈ f.elements d, (f.content x).isNamed = true

namespace WellLinked

variable (hf : f.WellLinked)

include hf

/-- Nodes side by side have the skeleton that lists the elements among and below them, in their
order, with their levels and names. -/
theorem listing_skeleton_row (cs : List NodeId) :
    ∀ level, (∀ c ∈ cs, f.level c = level) →
      listing level (Outline.skeleton (cs.map f.shape)) =
        ((cs.filter f.isElement).flatMap fun c ↦ c :: f.elements c).map
          fun x ↦ (f.level x, (f.content x).nodeName) := by
  induction cs using hf.row_induction with
  | nil => simp [Outline.skeleton, listing]
  | cons c rest ihc ihrest =>
    intro level hlevels
    obtain ⟨hlevel, hrest⟩ := List.forall_mem_cons.1 hlevels
    have hbelow := ihc (level + 1) fun d hd ↦ hlevel ▸ hf.level_of_mem_children hd
    rw [← elementChildren, ← hf.elements_eq] at hbelow
    rw [List.map_cons, hf.shape_eq c, Outline.skeleton, listing_append, ihrest level hrest]
    cases helement : (f.content c).isElement with
    | true => simp [isElement, helement, listing, hbelow, hlevel]
    | false => simp [isElement, helement, listing]

/-- The skeleton of a node lists its elements with their depths. -/
theorem listing_skeleton (i : NodeId) :
    listing 0 (f.skeleton i) =
      (f.elements i).map fun x ↦ (f.depthBelow i x - 1, (f.content x).nodeName) := by
  have hlevels := hf.listing_skeleton_row (f.children i) (f.level i + 1)
    fun c hc ↦ hf.level_of_mem_children hc
  rw [← elementChildren, ← hf.elements_eq] at hlevels
  have hshift := listing_add 0 (f.level i + 1) (f.skeleton i)
  rw [Nat.zero_add, skeleton, hf.shape_eq, Tree.branches_node, hlevels] at hshift
  have hback := congrArg (List.map fun e ↦ (e.1 - (f.level i + 1), e.2)) hshift
  rw [List.map_map, List.map_map] at hback
  rw [skeleton, hf.shape_eq, Tree.branches_node]
  simpa [Function.comp_def, depthBelow, Nat.sub_sub] using hback.symm

/-- Nodes side by side have the counts of the elements among and below them, and of the texts and
comments among them and just below these elements. -/
theorem census_row (cs : List NodeId) :
    census (cs.map f.shape) =
      let row := (cs.filter f.isElement).flatMap fun c ↦ c :: f.elements c
      let count t := (cs ++ row.flatMap f.children).countP fun c ↦ (f.content c).type == t
      ⟨row.length, count .text, count .comment⟩ := by
  induction cs using hf.row_induction with
  | nil => simp [census]
  | cons c rest ihc ihrest =>
    rw [← elementChildren, ← hf.elements_eq] at ihc
    rw [List.map_cons, hf.shape_eq c, census, ihc, ihrest]
    cases htype : (f.content c).type with
    | element =>
      have helement : f.isElement c = true := by simp [isElement, Content.isElement, htype]
      simp only [helement, htype, Census.mk_add_mk, List.filter_cons_of_pos, List.flatMap_cons,
        List.flatMap_append, List.cons_append, List.length_cons, List.length_append,
        List.countP_append, List.countP_cons_of_neg, beq_iff_eq, reduceCtorEq, not_false_eq_true,
        Census.mk.injEq]
      omega
    | _ =>
      have helement : f.isElement c = false := by simp [isElement, Content.isElement, htype]
      simp [htype, helement, Census.mk_add_mk, Nat.add_comm]

/-- The counts of a node are those of its elements, and of the texts and comments just below it and
them. -/
theorem census_shape (i : NodeId) :
    census (f.shape i).branches =
      ⟨(f.elements i).length, f.countBelow i .text, f.countBelow i .comment⟩ := by
  rw [hf.shape_eq, Tree.branches_node, hf.census_row, ← elementChildren, ← hf.elements_eq]
  rfl

end WellLinked

namespace Outlined

variable {d d' : NodeId}

/-- What the recursions on the shape of a document make of it is said by its elements. -/
theorem page_eq (h : f.Outlined d) (maxLevel : Int) :
    page maxLevel (census (f.shape d).branches) (f.skeleton d) = f.outlineLines d maxLevel := by
  have hempty : (f.skeleton d).isEmpty = (f.elements d).isEmpty := by
    rw [← isEmpty_listing 0, h.wellLinked.listing_skeleton, List.isEmpty_map]
  rw [page, outlineLines, h.wellLinked.census_shape, hempty, h.wellLinked.listing_skeleton,
    List.filter_map, List.map_map]
  rfl

/-- A document has the outline that its elements say. -/
theorem debugText_eq (h : f.Outlined d) (maxLevel : Int) :
    f.debugText d maxLevel = .ok ("\n".intercalate (f.outlineLines d maxLevel)) := by
  obtain ⟨errors, hcontent⟩ := h.content_eq
  have hnamed : ∀ c ∈ Tree.passing Content.isElement (f.shape d).branches, c.isNamed = true := by
    rw [← f.map_content_elements]
    exact List.forall_mem_map.2 h.isNamed
  have houtline : f.outline? maxLevel d = some ("\n".intercalate (f.outlineLines d maxLevel)) := by
    rw [outline?, text?, lines?_eq hnamed, ← h.page_eq]
    rfl
  rw [debugText, hcontent, houtline]

end Outlined

/-- A whole number for the greatest level is taken as it is. -/
theorem deepestWithin_int (size : Nat) (m : Int) :
    deepestWithin size (.finite (decide (m < 0)) m.natAbs 0) = m := by
  have hsigned : (if decide (m < 0) = true then -(m.natAbs : Int) else m.natAbs) = m := by
    simp only [decide_eq_true_eq]
    omega
  have hone : Decimal.power 2 0 = 1 := rfl
  have hvalue : Decimal.Binary.toRat? (.finite (decide (m < 0)) m.natAbs 0) = some (m : Rat) := by
    simp only [Decimal.Binary.toRat?, Decimal.Binary.fraction, Int.neg_zero, hone, Nat.mul_one,
      hsigned, Rat.mkRat_one]
  simp only [deepestWithin, hvalue, Option.map_some, Option.getD_some, Rat.floor_intCast]

/-- A whole number is the limit that it says. -/
theorem debugTextTo_int (f : Forest) (i : NodeId) (maxLevel : Int) :
    f.debugTextTo i (.int maxLevel) = f.debugText i maxLevel := by
  simp only [debugTextTo, Literal.number?, deepestWithin_int]

/-- Every element below a node has a line of its own in the outline of the node: its name stands in
a line, and it is not too deep. -/
structure ShownWithin (f : Forest) (i : NodeId) (maxLevel : Int) : Prop where
  /-- Names have no line end in them and do not begin with a blank. -/
  fits : ∀ x ∈ f.elements i, Fits (f.content x).nodeName
  /-- The limit is at least the depth of every element. -/
  within : ∀ x ∈ f.elements i, ((f.depthBelow i x - 1 : Nat) : Int) ≤ maxLevel

/-- **The outline of a document tells its elements and nothing else.** It gives their number, and
the numbers of texts and comments, and a line for each element that is not deeper than the limit, in
their order, indented by the depth. Where names can be told from the blanks and line ends around
them and the limit is large enough, two documents have the same outline exactly if they have the
same skeleton and the same numbers of texts and of comments. -/
theorem outline_faithful {d : NodeId} (h : f.Outlined d) :
    (∀ maxLevel, f.debugTextTo d (.int maxLevel) =
      .ok ("\n".intercalate (f.outlineLines d maxLevel))) ∧
    ∀ {f' : Forest} {d' : NodeId} {maxLevel : Int}, f'.Outlined d' → f.ShownWithin d maxLevel →
      f'.ShownWithin d' maxLevel →
      (f.debugTextTo d (.int maxLevel) = f'.debugTextTo d' (.int maxLevel) ↔
        f.skeleton d = f'.skeleton d' ∧ f.countBelow d .text = f'.countBelow d' .text ∧
          f.countBelow d .comment = f'.countBelow d' .comment) := by
  refine ⟨fun maxLevel ↦ (f.debugTextTo_int d maxLevel).trans (h.debugText_eq maxLevel), ?_⟩
  intro f' d' maxLevel h' hshown hshown'
  rw [debugTextTo_int, debugTextTo_int, h.debugText_eq, h'.debugText_eq, Except.ok.injEq,
    ← h.page_eq, ← h'.page_eq]
  have hlisted {f : Forest} {d : NodeId} (h : f.Outlined d) (hshown : f.ShownWithin d maxLevel) :
      ∀ e ∈ listing 0 (f.skeleton d), (e.1 : Int) ≤ maxLevel ∧ Fits e.2 := by
    rw [h.wellLinked.listing_skeleton]
    exact List.forall_mem_map.2 fun x hx ↦ ⟨hshown.within x hx, hshown.fits x hx⟩
  constructor
  · intro heq
    obtain ⟨hcensus, hskeleton⟩ := page_injective (fun e he ↦ (hlisted h hshown e he).1)
      (fun e he ↦ (hlisted h hshown e he).2) (fun e he ↦ (hlisted h' hshown' e he).1)
      (fun e he ↦ (hlisted h' hshown' e he).2) heq
    rw [h.wellLinked.census_shape, h'.wellLinked.census_shape, Census.mk.injEq] at hcensus
    exact ⟨hskeleton, hcensus.2⟩
  · rintro ⟨hskeleton, htexts, hcomments⟩
    -- equal skeletons list equally many elements
    have hlength := congrArg (fun s ↦ (listing 0 s).length) hskeleton
    simp only [h.wellLinked.listing_skeleton, h'.wellLinked.listing_skeleton,
      List.length_map] at hlength
    rw [h.wellLinked.census_shape, h'.wellLinked.census_shape, hskeleton, hlength, htexts,
      hcomments]

/-- A list of one item, with a text before the item and a comment after it. -/
def listPage : Forest := Call.run .empty
  [.create (.ok (.document [])) none, .create (.ok (.element "ul" .empty)) none,
    .create (.ok (.element "li" .empty)) none, .create (.ok (.text "t")) none,
    .create (.ok (.comment "c")) none, .append 0 (some 1), .append 1 (some 3), .append 1 (some 2),
    .append 1 (some 4)]

/-- A list of one item, with attributes, a comment before it and a text in the item. -/
def markedListPage : Forest := Call.run .empty
  [.create (.ok (.document [])) none,
    .create (.ok (.element "ul" (.ofPairs [("class", "menu")]))) none,
    .create (.ok (.element "li" .empty)) none, .create (.ok (.text "u")) none,
    .create (.ok (.comment "d")) none, .append 0 (some 4), .append 0 (some 1), .append 1 (some 2),
    .append 2 (some 3)]

/-- The two lists have the same outline. -/
theorem outline_faithful_lists :
    listPage.Outlined 0 ∧ markedListPage.Outlined 0 ∧ listPage.ShownWithin 0 1 ∧
      markedListPage.ShownWithin 0 1 ∧
      listPage.outlineLines 0 1 =
        ["Document Structure:", "Element count: 2", "Text node count: 1", "Comment count: 1",
          "\nElement tree:", "ul", "  li"] ∧
      listPage.debugTextTo 0 (.int 1) = markedListPage.debugTextTo 0 (.int 1) := by
  have hlinked : listPage.WellLinked := Reachable.wellLinked ⟨_, by decide, rfl⟩
  have hlinked' : markedListPage.WellLinked := Reachable.wellLinked ⟨_, by decide, rfl⟩
  -- both have one element at the top and one below that, with the same numbers
  have helements {f : Forest} (hf : f.WellLinked) (h₀ : f.elementChildren 0 = [1])
      (h₁ : f.elementChildren 1 = [2]) (h₂ : f.elementChildren 2 = []) : f.elements 0 = [1, 2] := by
    rw [hf.elements_eq 0, h₀, List.flatMap_singleton, hf.elements_eq 1, h₁, List.flatMap_singleton,
      hf.elements_eq 2, h₂, List.flatMap_nil]
  have hfound := helements hlinked (by decide) (by decide) (by decide)
  have hfound' := helements hlinked' (by decide) (by decide) (by decide)
  have h : listPage.Outlined 0 := ⟨hlinked, ⟨_, rfl⟩, hfound ▸ by decide⟩
  have h' : markedListPage.Outlined 0 := ⟨hlinked', ⟨_, rfl⟩, hfound' ▸ by decide⟩
  have hshown : listPage.ShownWithin 0 1 := ⟨hfound ▸ by decide, hfound ▸ by decide⟩
  have hshown' : markedListPage.ShownWithin 0 1 := ⟨hfound' ▸ by decide, hfound' ▸ by decide⟩
  have hlines : listPage.outlineLines 0 1 =
      ["Document Structure:", "Element count: 2", "Text node count: 1", "Comment count: 1",
        "\nElement tree:", "ul", "  li"] := by
    rw [outlineLines, countBelow, countBelow, hfound]
    decide +kernel
  have hskeleton : listPage.skeleton 0 = markedListPage.skeleton 0 := by
    refine listing_injective 0 ?_
    rw [hlinked.listing_skeleton, hlinked'.listing_skeleton, hfound, hfound']
    decide
  have hcounts (t : NodeType) (ht : t = .text ∨ t = .comment) :
      listPage.countBelow 0 t = markedListPage.countBelow 0 t := by
    rw [countBelow, countBelow, hfound, hfound']
    rcases ht with rfl | rfl <;> decide
  obtain ⟨-, htells⟩ := outline_faithful h
  exact ⟨h, h', hshown, hshown', hlines,
    (htells h' hshown hshown').2 ⟨hskeleton, hcounts _ (.inl rfl), hcounts _ (.inr rfl)⟩⟩

end Forest

end TreePath
