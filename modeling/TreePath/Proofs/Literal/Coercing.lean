import Mathlib.Data.List.Forall2
import TreePath.Literal.Coercion

/-!
# What a literal is read as

A literal is a nest of groups, lists or tuples, around leaves. Seen from left to right it is a row
of leaves and of empty groups (`Literal.pieces`). Reading it goes along this row: an empty group is
reported, a leaf is read or refused, and the first leaf that is refused ends the reading
(`Coerced`). If none is, every group reads as the conjunction of its items (`Reads`).

A refusal shows what is refused, and showing it may fail: a path whose steps were taken away and a
whole number with too many digits are not written at all. Then the fault of the writing is raised
and not the refusal (`Refused`). So a literal that cannot be read is refused as a value of the wrong
type exactly if what would be shown can be written (`coercion`, `not_refused`).

The order of reports and refusals is part of the statement, since both are seen by a caller. It is
the order of the pieces, from left to right and from the outside in: an empty group is reported when
it is come to, whether or not something behind it is refused later. The relation `Coerced` keeps the
reports made so far beside the outcome, and it is closed under everything that the code does with
computations, so that each function of the code needs one lemma.
-/

namespace TreePath

open Build

/-! ### The pieces of a literal -/

/-- What stands in a literal when groups are opened. -/
inductive LiteralPiece where
  /-- A literal that is no group. -/
  | leaf (v : Literal)
  /-- A group without items. -/
  | gap

/-- An empty group is reported. -/
def LiteralPiece.notice? : LiteralPiece → Option Notice
  | leaf _ => none
  | gap => some .emptyConjunction

namespace Literal

mutual

/-- The leaves and the empty groups of a literal, from left to right. -/
def pieces : Literal → List LiteralPiece
  | list items => if items.isEmpty then [.gap] else piecesOfAll items
  | tuple items => if items.isEmpty then [.gap] else piecesOfAll items
  | v => [.leaf v]

/-- The pieces of several literals, one after the other. -/
def piecesOfAll : List Literal → List LiteralPiece
  | [] => []
  | v :: rest => pieces v ++ piecesOfAll rest

end

/-- A literal that is no group is its own only piece. -/
theorem pieces_eq_leaf (v : Literal) (hlist : ∀ items, v ≠ list items)
    (htuple : ∀ items, v ≠ tuple items) : v.pieces = [.leaf v] := by
  rw [pieces]
  · exact hlist
  · exact htuple

/-! ### Readable leaves -/

/-- A leaf can be read as a step. -/
inductive Readable : Literal → Prop
  /-- A step. -/
  | step (s : Step) : Readable (step s)
  /-- A text with at least one character. -/
  | text {s : String} (h : s ≠ "") : Readable (text s)
  /-- A mapping all of whose keys and values are texts. -/
  | mapping {entries : List (Literal × Literal)}
    (h : ∀ e ∈ entries, ∃ k v, e = (text k, text v)) : Readable (mapping entries)
  /-- A function. -/
  | function (p : Predicate) : Readable (function p)

/-- A text at a text, as an entry of a mapping. -/
def textEntry (e : String × String) : Literal × Literal :=
  (text e.1, text e.2)

/-- A literal reads as a step: a leaf as the step for it, a group as the conjunction of what its
items read as. -/
inductive Reads : Literal → Step → Prop
  /-- A step is itself. -/
  | step (s : Step) : Reads (step s) s
  /-- A text is a name. -/
  | text {s : String} (h : s ≠ "") : Reads (text s) (.name s)
  /-- A mapping lists attributes. -/
  | mapping (pairs : List (String × String)) :
    Reads (mapping (pairs.map textEntry)) (.attributes (.ofPairs pairs))
  /-- A function is a predicate. -/
  | function (p : Predicate) : Reads (function p) (.predicate p)
  /-- A list is a conjunction. -/
  | list {items : List Literal} {ss : List Step} (h : List.Forall₂ Reads items ss) :
    Reads (list items) (.all ss)
  /-- So is a tuple. -/
  | tuple {items : List Literal} {ss : List Step} (h : List.Forall₂ Reads items ss) :
    Reads (tuple items) (.all ss)

/-! ### Refused leaves -/

/-- Whether a literal is of a kind that is not read as a step. -/
def isForeign : Literal → Bool
  | none | bool _ | int _ | float _ | iterator _ | path .. | other .. => true
  | text _ | list _ | tuple _ | mapping _ | function _ | step _ => false

/-- A leaf is refused, and these literals are shown in the refusal. -/
inductive Refused : Literal → List Literal → LiteralError → Prop
  /-- A text without characters is no name. -/
  | text : Refused (text "") [text ""] (.badName (text "").written)
  /-- Of a mapping, the first entry is shown that is not a text at a text. -/
  | mapping {pairs : List (String × String)} {k v : Literal} {rest : List (Literal × Literal)}
    (h : ∀ e, (k, v) ≠ textEntry e) :
    Refused (mapping (pairs.map textEntry ++ (k, v) :: rest)) [k, v]
      (.badEntry k.written v.written)
  /-- Any other leaf is shown with its class. -/
  | foreign {v : Literal} (h : v.isForeign = true) :
    Refused v [v] (.notAStep v.typeName v.written)

/-- What is refused cannot be read. -/
theorem Refused.not_readable {l : Literal} {shown : List Literal} {e : LiteralError}
    (h : Refused l shown e) : ¬ l.Readable := by
  rintro (_ | htext | hmapping | _)
  · rcases h with - | - | h
    cases h
  · rcases h with - | - | h
    · exact htext rfl
    · cases h
  · rcases h with - | h | h
    · obtain ⟨s, t, heq⟩ := hmapping _ (List.mem_append_right _ List.mem_cons_self)
      exact h (s, t) heq
    · cases h
  · rcases h with - | - | h
    cases h

/-- What is refused has a wrong type, as the complaint says. -/
theorem Refused.kindName_eq {l : Literal} {shown : List Literal} {e : LiteralError}
    (h : Refused l shown e) : e.kindName = "TypeError" := by
  cases h <;> rfl

/-! ### What cannot be written -/

/-- A whole number cannot be written exactly if it has too many digits. -/
theorem writingFault?_int_iff {i : Int} :
    (int i).writingFault? = some .tooManyDigits ↔ Nat.pow 10 Decimal.digitLimit ≤ i.natAbs := by
  rw [writingFault?, ← Decimal.isTooLong_iff]
  split
  · next h => exact iff_of_true rfl h
  · next h => exact iff_of_false nofun h

mutual

/-- What cannot be written is a path without its steps, or a number with too many digits. -/
theorem eq_of_writingFault? {e : LiteralError} :
    ∀ {v : Literal}, v.writingFault? = some e → e = .stepsTaken ∨ e = .tooManyDigits
  | path _ .none, h => by
    rw [writingFault?] at h
    exact .inl (Option.some.inj h).symm
  | int i, h => by
    rw [writingFault?] at h
    split at h
    · exact .inr (Option.some.inj h).symm
    · cases h
  | list items, h => by
    rw [writingFault?] at h
    exact eq_of_writingFaultAmong? h
  | tuple items, h => by
    rw [writingFault?] at h
    exact eq_of_writingFaultAmong? h
  | mapping entries, h => by
    rw [writingFault?] at h
    exact eq_of_entryFault? h
  | none, h | bool _, h | float _, h | text _, h | iterator _, h | function _, h | step _, h
  | path _ (some _), h | other _ _, h => by
    simp [writingFault?] at h

/-- Two things can prevent a literal from being written. -/
theorem eq_of_writingFaultAmong? {e : LiteralError} :
    ∀ {vs : List Literal}, writingFaultAmong? vs = some e → e = .stepsTaken ∨ e = .tooManyDigits
  | [], h => by
    rw [writingFaultAmong?] at h
    cases h
  | v :: rest, h => by
    rw [writingFaultAmong?, Option.or_eq_some_iff] at h
    rcases h with h | ⟨-, h⟩
    · exact eq_of_writingFault? h
    · exact eq_of_writingFaultAmong? h

/-- They are the same two for the entries of a mapping. -/
theorem eq_of_entryFault? {e : LiteralError} :
    ∀ {entries : List (Literal × Literal)}, entryFault? entries = some e →
      e = .stepsTaken ∨ e = .tooManyDigits
  | [], h => by
    rw [entryFault?] at h
    cases h
  | (k, v) :: rest, h => by
    rw [entryFault?, Option.or_eq_some_iff, Option.or_eq_some_iff] at h
    rcases h with (h | ⟨-, h⟩) | ⟨-, h⟩
    · exact eq_of_writingFault? h
    · exact eq_of_writingFault? h
    · exact eq_of_entryFault? h

end

/-- A refusal is raised exactly if what it shows can be written. -/
theorem Refused.getD_eq_iff {l : Literal} {shown : List Literal} {e : LiteralError}
    (h : Refused l shown e) :
    (writingFaultAmong? shown).getD e = e ↔ writingFaultAmong? shown = .none := by
  cases hfault : writingFaultAmong? shown with
  | none => simp
  | some fault =>
    have hne : fault.kindName ≠ e.kindName := by
      rw [h.kindName_eq]
      rcases eq_of_writingFaultAmong? hfault with rfl | rfl <;> decide
    simpa using fun heq : fault = e ↦ hne (congrArg LiteralError.kindName heq)

/-- No refusal of a leaf, and no fault of writing it, says that there are no steps. -/
theorem Refused.kindName_ne {l : Literal} {shown : List Literal} {e : LiteralError}
    (h : Refused l shown e) : ((writingFaultAmong? shown).getD e).kindName ≠ "MalformedPath" := by
  cases hfault : writingFaultAmong? shown with
  | none =>
    rw [Option.getD_none, h.kindName_eq]
    decide
  | some fault =>
    rw [Option.getD_some]
    rcases eq_of_writingFaultAmong? hfault with rfl | rfl <;> decide

end Literal

/-! ### Reading along the row -/

/-- The state after some more reports. -/
def BuildState.told (S : BuildState) (notices : List Notice) : BuildState :=
  { S with notices := S.notices ++ notices.toArray }

@[simp] theorem BuildState.told_nil (S : BuildState) : S.told [] = S := by
  rw [told, Array.append_empty]

/-- What is told in two goes is told one after the other. -/
theorem BuildState.told_told (S : BuildState) (ns ms : List Notice) :
    (S.told ns).told ms = S.told (ns ++ ms) := by
  simp only [told, Array.append_assoc, List.append_toArray]

/-- How the reading of a row ends: every empty group was reported up to the end or up to the first
leaf that is refused. -/
inductive Coerced {α : Type} (S : BuildState) (row : List LiteralPiece) (Good : α → Prop) :
    EStateM.Result LiteralError BuildState α → Prop
  /-- Every leaf is read. -/
  | reads {a : α} (readable : ∀ l, .leaf l ∈ row → l.Readable) (good : Good a) :
    Coerced S row Good (.ok a (S.told (row.filterMap LiteralPiece.notice?)))
  /-- A leaf is refused, and those before it are read. The refusal is raised unless it cannot be
  written. -/
  | refuses {before after : List LiteralPiece} {l : Literal} {shown : List Literal}
    {e : LiteralError} (split : row = before ++ .leaf l :: after)
    (readable : ∀ l', .leaf l' ∈ before → l'.Readable) (refused : l.Refused shown e) :
    Coerced S row Good (.error ((Literal.writingFaultAmong? shown).getD e)
      (S.told (before.filterMap LiteralPiece.notice?)))

namespace Coerced

variable {α β : Type} {S : BuildState} {row : List LiteralPiece} {Good : α → Prop}
  {Good' : β → Prop}

/-- What is made without reading anything is good if it is. -/
theorem pure {a : α} (h : Good a) : Coerced S [] Good ((Pure.pure a : Build α).run S) := by
  have hread : Coerced S [] Good (.ok a (S.told [])) := .reads (fun l hl ↦ by cases hl) h
  rwa [BuildState.told_nil] at hread

/-- One row after the other. -/
theorem bind {row' : List LiteralPiece} {x : Build α} {g : α → Build β}
    (hx : Coerced S row Good (x.run S))
    (hg : ∀ a S', Good a → Coerced S' row' Good' ((g a).run S')) :
    Coerced S (row ++ row') Good' ((x >>= g).run S) := by
  rw [EStateM.run_bind]
  generalize x.run S = r at hx
  cases hx with
  | @refuses before after l _ _ split readable refused =>
    have hsplit : row ++ row' = before ++ .leaf l :: (after ++ row') := by
      rw [split, List.append_assoc, List.cons_append]
    exact .refuses hsplit readable refused
  | @reads a readable good =>
    have hrest := hg a (S.told (row.filterMap LiteralPiece.notice?)) good
    dsimp only
    generalize (g a).run (S.told (row.filterMap LiteralPiece.notice?)) = r at hrest
    cases hrest with
    | reads readable' good' =>
      rw [BuildState.told_told, ← List.filterMap_append]
      refine .reads (fun l hl ↦ ?_) good'
      exact (List.mem_append.1 hl).elim (readable l) (readable' l)
    | @refuses before after l _ _ split readable' refused =>
      rw [BuildState.told_told, ← List.filterMap_append]
      have hsplit : row ++ row' = (row ++ before) ++ .leaf l :: after := by
        rw [split, List.append_assoc]
      refine .refuses hsplit (fun l' hl' ↦ ?_) refused
      exact (List.mem_append.1 hl').elim (readable l') (readable' l')

/-- Something is made of what is read. -/
theorem map {x : Build α} {g : α → β} (hx : Coerced S row Good (x.run S))
    (hg : ∀ a, Good a → Good' (g a)) : Coerced S row Good' ((do return g (← x)).run S) := by
  have h := hx.bind fun a S' ha ↦ pure (S := S') (hg a ha)
  rwa [List.append_nil] at h

/-- What is good enough for more is good enough. -/
theorem mono {Good' : α → Prop} {r : EStateM.Result LiteralError BuildState α}
    (h : Coerced S row Good r) (hgood : ∀ a, Good a → Good' a) : Coerced S row Good' r := by
  cases h with
  | reads readable good => exact .reads readable (hgood _ good)
  | refuses split readable refused => exact .refuses split readable refused

/-- A leaf that is read. -/
theorem leaf {a : α} {l : Literal} (hl : l.Readable) (h : Good a) :
    Coerced S [.leaf l] Good (.ok a S) := by
  have hread : Coerced S [.leaf l] Good (.ok a (S.told [])) := by
    refine .reads (fun l' hl' ↦ ?_) h
    cases List.mem_singleton.1 hl'
    exact hl
  rwa [BuildState.told_nil] at hread

/-- A leaf that is refused. -/
theorem refusal {l : Literal} {shown : List Literal} {e : LiteralError} (h : l.Refused shown e) :
    Coerced S [.leaf l] Good (.error ((Literal.writingFaultAmong? shown).getD e) S) := by
  have hrefuse : Coerced S [.leaf l] Good (.error ((Literal.writingFaultAmong? shown).getD e)
      (S.told (([] : List LiteralPiece).filterMap LiteralPiece.notice?))) :=
    .refuses rfl (fun l' hl' ↦ by cases hl') h
  rwa [List.filterMap_nil, BuildState.told_nil] at hrefuse

end Coerced

/-! ### Leaves -/

/-- A literal is refused with its written form; if that cannot be made, with what is wrong with
it. -/
theorem run_refuse {α : Type} (v : Literal) (f : String → LiteralError) (S : BuildState) :
    (do throw (f (← shown v)) : Build α).run S =
      .error ((Literal.writingFaultAmong? [v]).getD (f v.written)) S := by
  rw [shown, Literal.writingFaultAmong?, Literal.writingFaultAmong?]
  cases v.writingFault? <;> rfl

/-- So is an entry of a mapping, its key first. -/
theorem run_refuseEntry {α : Type} (k v : Literal) (f : String → String → LiteralError)
    (S : BuildState) :
    (do throw (f (← shown k) (← shown v)) : Build α).run S =
      .error ((Literal.writingFaultAmong? [k, v]).getD (f k.written v.written)) S := by
  rw [shown, shown]
  simp only [Literal.writingFaultAmong?]
  cases k.writingFault? with
  | some e => rfl
  | none => cases v.writingFault? <;> rfl

/-- A text becomes the test of a name, unless it is empty. -/
theorem coerced_text (s : String) (S : BuildState) :
    Coerced S [.leaf (.text s)] (Literal.Reads (.text s)) ((nameTest (.text s)).run S) := by
  rw [nameTest]
  by_cases hs : s = ""
  · subst hs
    exact .refusal .text
  · rw [if_neg (by simpa using hs)]
    exact .leaf (.text hs) (.text hs)

/-- Reading a mapping goes on after entries that are texts at texts. -/
theorem coerced_wantedAttributes (entries : List (Literal × Literal))
    (pairs : List (String × String)) (S : BuildState) :
    Coerced S [.leaf (.mapping (pairs.map Literal.textEntry ++ entries))]
      (fun a ↦ Literal.Reads (.mapping (pairs.map Literal.textEntry ++ entries)) (.attributes a))
      ((wantedAttributes entries (.ofPairs pairs)).run S) := by
  induction entries generalizing pairs with
  | nil =>
    rw [wantedAttributes, List.append_nil]
    refine .leaf (.mapping fun e he ↦ ?_) (.mapping pairs)
    obtain ⟨e, -, rfl⟩ := List.mem_map.1 he
    exact ⟨e.1, e.2, rfl⟩
  | cons e rest ih =>
    by_cases he : ∃ p, e = Literal.textEntry p
    · obtain ⟨p, rfl⟩ := he
      have hput : (Attributes.ofPairs pairs).put p.1 p.2 = .ofPairs (pairs ++ [p]) := by
        rw [Attributes.ofPairs, Attributes.ofPairs, List.foldl_append]
        rfl
      have hrest := ih (pairs ++ [p])
      rw [List.map_append, List.append_assoc] at hrest
      rw [Literal.textEntry, wantedAttributes, hput]
      exact hrest
    · obtain ⟨k, v⟩ := e
      have hkv : ∀ p, (k, v) ≠ Literal.textEntry p := fun p hp ↦ he ⟨p, hp⟩
      rw [wantedAttributes, run_refuseEntry]
      · exact .refusal (.mapping hkv)
      · rintro s t rfl rfl
        exact hkv (s, t) rfl

/-- A mapping becomes the test of its attributes. -/
theorem coerced_mapping (entries : List (Literal × Literal)) (S : BuildState) :
    Coerced S [.leaf (.mapping entries)] (Literal.Reads (.mapping entries))
      ((attributeTest (.mapping entries)).run S) := by
  rw [attributeTest]
  exact (coerced_wantedAttributes entries [] S).map fun a h ↦ h

/-! ### Groups -/

/-- A group reads as the conjunction of its items; if it has none, that is reported. -/
theorem coerced_group {items : List Literal} (S : BuildState)
    (h : Coerced S (Literal.piecesOfAll items) (List.Forall₂ Literal.Reads items)
      ((asSteps items).run S)) :
    Coerced S (if items.isEmpty then [.gap] else Literal.piecesOfAll items)
      (fun s ↦ ∃ ss, s = .all ss ∧ List.Forall₂ Literal.Reads items ss)
      ((do conjunction (← asSteps items)).run S) := by
  cases items with
  | nil =>
    rw [List.isEmpty_nil, if_pos rfl, asSteps]
    have hgood : ∃ ss, Step.all [] = .all ss ∧ List.Forall₂ Literal.Reads [] ss :=
      ⟨[], rfl, .nil⟩
    have hread : Coerced S [.gap] (fun s ↦ ∃ ss, s = .all ss ∧ List.Forall₂ Literal.Reads [] ss)
        (.ok (Step.all []) (S.told [.emptyConjunction])) := .reads (by simp) hgood
    exact hread
  | cons v rest =>
    rw [List.isEmpty_cons, if_neg Bool.false_ne_true, ← List.append_nil (Literal.piecesOfAll _)]
    refine h.bind fun ss S' hss ↦ ?_
    cases hss with
    | cons hhead hrest => exact .pure ⟨_, rfl, .cons hhead hrest⟩

mutual

/-- A literal becomes a step, or is refused at the first of its pieces that no step can be made
of. -/
theorem coerced_asStep (S : BuildState) :
    ∀ v : Literal, Coerced S v.pieces (Literal.Reads v) ((asStep v).run S)
  | .step s => by
    rw [Literal.pieces_eq_leaf (.step s) nofun nofun, asStep]
    exact .leaf (.step s) (.step s)
  | .text s => by
    rw [Literal.pieces_eq_leaf (.text s) nofun nofun, asStep]
    exact coerced_text s S
  | .mapping entries => by
    rw [Literal.pieces_eq_leaf (.mapping entries) nofun nofun, asStep]
    exact coerced_mapping entries S
  | .list items => by
    rw [Literal.pieces, asStep]
    refine (coerced_group S (coerced_asSteps S items)).mono fun s hs ↦ ?_
    obtain ⟨ss, rfl, hss⟩ := hs
    exact .list hss
  | .tuple items => by
    rw [Literal.pieces, asStep]
    refine (coerced_group S (coerced_asSteps S items)).mono fun s hs ↦ ?_
    obtain ⟨ss, rfl, hss⟩ := hs
    exact .tuple hss
  | .function p => by
    rw [Literal.pieces_eq_leaf (.function p) nofun nofun, asStep]
    exact .leaf (.function p) (.function p)
  | .none | .bool _ | .int _ | .float _ | .iterator _ | .path .. | .other .. => by
    simp only [Literal.pieces, asStep, run_refuse]
    exact .refusal (.foreign rfl)

/-- Several literals are read one after the other. -/
theorem coerced_asSteps (S : BuildState) :
    ∀ items : List Literal, Coerced S (Literal.piecesOfAll items)
      (List.Forall₂ Literal.Reads items) ((asSteps items).run S)
  | [] => by
    rw [Literal.piecesOfAll, asSteps]
    exact .pure .nil
  | v :: rest => by
    rw [Literal.piecesOfAll, asSteps]
    refine (coerced_asStep S v).bind fun s S' hs ↦ ?_
    exact (coerced_asSteps S' rest).map fun ss hss ↦ .cons hs hss

end

/-- A path has a step for each of the literals that it is made of. -/
theorem coerced_pathOf (S : BuildState) (v : Literal) (rest : List Literal) :
    Coerced S (Literal.piecesOfAll (v :: rest))
      (fun p : Path ↦ List.Forall₂ Literal.Reads (v :: rest) p.steps)
      ((pathOf (v :: rest)).run S) := by
  rw [pathOf, Literal.piecesOfAll]
  refine (coerced_asStep S v).bind fun s S' hs ↦ ?_
  exact (coerced_asSteps S' rest).map fun ss hss ↦ .cons hs hss

section Ends

variable {α : Type} {S S' : BuildState} {row : List LiteralPiece} {Good : α → Prop}

/-- A row is read to its end exactly if all leaves in it can be read. -/
theorem Coerced.exists_ok_iff {x : Build α} (h : Coerced S row Good (x.run S)) :
    (∃ a S', x.run S = .ok a S') ↔ ∀ l, .leaf l ∈ row → l.Readable := by
  generalize x.run S = r at h
  cases h with
  | reads readable good => exact iff_of_true ⟨_, _, rfl⟩ readable
  | refuses split readable refused =>
    refine iff_of_false (by simp) fun hall ↦ refused.not_readable (hall _ ?_)
    rw [split]
    exact List.mem_append_right _ List.mem_cons_self

/-- What ends the reading of a row before its end is the refusal of the first leaf that cannot be
read, or the fault of writing what that shows. -/
theorem Coerced.exists_refused {raised : LiteralError}
    (h : Coerced S row Good (.error raised S')) :
    raised.kindName ≠ "MalformedPath" ∧ ∃ before l after shown refusal,
      row = before ++ .leaf l :: after ∧ (∀ l', .leaf l' ∈ before → l'.Readable) ∧
        l.Refused shown refusal ∧ refusal.kindName = "TypeError" ∧
        (raised = refusal ↔ Literal.writingFaultAmong? shown = none) := by
  cases h with
  | refuses split readable refused =>
    exact ⟨refused.kindName_ne, _, _, _, _, _, split, readable, refused, refused.kindName_eq,
      refused.getD_eq_iff⟩

end Ends

/-- **How literals are read.** A literal reads as a step exactly if all its leaves can be read, and
then every group becomes the conjunction of its items. Every empty group before the first leaf that
is refused, or all of them, are reported. That leaf is refused as a value of the wrong type, unless
what the refusal shows of it cannot be written; then that is raised, which is of another class. A
path reads its literals in the same way, and misses steps exactly if there are none. -/
theorem coercion (v : Literal) (vs : List Literal) (S : BuildState) :
    ((∃ s S', (asStep v).run S = .ok s S') ↔ ∀ l, .leaf l ∈ v.pieces → l.Readable) ∧
      Coerced S v.pieces v.Reads ((asStep v).run S) ∧
      (∀ raised S', (asStep v).run S = .error raised S' → ∃ before l after shown refusal,
        v.pieces = before ++ .leaf l :: after ∧ (∀ l', .leaf l' ∈ before → l'.Readable) ∧
          l.Refused shown refusal ∧ refusal.kindName = "TypeError" ∧
          (raised = refusal ↔ Literal.writingFaultAmong? shown = none)) ∧
      ((∃ raised S', (pathOf vs).run S = .error raised S' ∧ raised.kindName = "MalformedPath") ↔
        vs = []) ∧
      (vs ≠ [] → Coerced S (Literal.piecesOfAll vs)
        (fun p : Path ↦ List.Forall₂ Literal.Reads vs p.steps) ((pathOf vs).run S)) := by
  have hstep := coerced_asStep S v
  refine ⟨hstep.exists_ok_iff, hstep, fun raised S' hrun ↦ ?_, ?_⟩
  · rw [hrun] at hstep
    exact hstep.exists_refused.2
  · cases vs with
    | nil => exact ⟨⟨fun _ ↦ rfl, fun _ ↦ ⟨.noSteps, S, rfl, rfl⟩⟩, fun hne ↦ absurd rfl hne⟩
    | cons first rest =>
      have hpath := coerced_pathOf S first rest
      refine ⟨⟨?_, fun heq ↦ by cases heq⟩, fun _ ↦ hpath⟩
      rintro ⟨raised, S', hrun, hkind⟩
      rw [hrun] at hpath
      exact absurd hkind hpath.exists_refused.1

/-- Groups within groups, some of them empty, with a number among the leaves. -/
def sampleNest : Literal :=
  .list [.tuple [], .list [.text "a", .tuple [.int 5, .list []]], .text ""]

/-- The number is the first leaf that cannot be read: it is refused, after the empty group before it
was reported and before the empty text is looked at. -/
theorem coercion_sample :
    sampleNest.pieces =
        [.gap, .leaf (.text "a")] ++ .leaf (.int 5) :: [.gap, .leaf (.text "")] ∧
      (asStep sampleNest).run default =
        .error (.notAStep "int" "5") (BuildState.told default [.emptyConjunction]) ∧
      Coerced default sampleNest.pieces sampleNest.Reads ((asStep sampleNest).run default) ∧
      ¬ ∀ l, .leaf l ∈ sampleNest.pieces → l.Readable := by
  obtain ⟨hreads, hcoerced, -⟩ := coercion sampleNest [] default
  have hrun : (asStep sampleNest).run default =
      .error (.notAStep "int" "5") (BuildState.told default [.emptyConjunction]) := rfl
  refine ⟨rfl, hrun, hcoerced, fun hall ↦ ?_⟩
  obtain ⟨s, S', hs⟩ := hreads.2 hall
  rw [hrun] at hs
  cases hs

/-- A whole number below zero with one digit too many. -/
def longNumber : Int :=
  -(Nat.pow 10 Decimal.digitLimit : Nat)

/-- A whole number with too many digits is no step, but it is not refused as a value of the wrong
type. -/
theorem not_refused :
    (Literal.int longNumber).pieces = [.leaf (.int longNumber)] ∧
      (Literal.int longNumber).Refused [.int longNumber]
        (.notAStep "int" (Literal.int longNumber).written) ∧
      ¬ (Literal.int longNumber).Readable ∧
      ∃ raised, (asStep (.int longNumber)).run default = .error raised default ∧
        raised.kindName = "ValueError" ∧ raised.kindName ≠ "TypeError" := by
  have hrefused : (Literal.int longNumber).Refused [.int longNumber]
      (.notAStep "int" (Literal.int longNumber).written) := .foreign rfl
  have hmagnitude : longNumber.natAbs = Nat.pow 10 Decimal.digitLimit := by
    rw [longNumber, Int.natAbs_neg, Int.natAbs_natCast]
  have hfault : (Literal.int longNumber).writingFault? = some .tooManyDigits :=
    Literal.writingFault?_int_iff.2 (Nat.le_of_eq hmagnitude.symm)
  refine ⟨Literal.pieces_eq_leaf _ nofun nofun, hrefused, hrefused.not_readable, .tooManyDigits, ?_,
    rfl, by decide⟩
  simp only [asStep, run_refuse, Literal.writingFaultAmong?, hfault]
  rfl

end TreePath
