import TreePath.Proofs.Json.Nesting

/-!
# What is left when the writer gives up

The writer goes through a value from left to right and gives up at the first part that cannot be
written (`Json.unwritable?`). It can do so behind a colon or a comma, when the part is of a class
that JSON does not have, and behind a complete item, when the part is a number with too many digits
and its comma goes with it. So the last character tells nothing about a text that was cut off. What
is the same in all cases is that the object around the part is still open (`Json.Open`), and no
reader takes a text in which something is open for a value (`Json.read_ne_ok_of_open`).

The proof goes along the writer. Each text that it adds at one go changes the depth by a fixed
amount (`Json.Shifts`): brackets and braces by one, everything else, strings included, by nothing. A
computation that writes is described by the depths before and after it and by the complaint with
which it may give up (`Json.Guarded`), and such descriptions can be put one after the other
(`Json.Guarded.bind`). A value only comes where something is open; the one exception is the value
that is written first, and an object does not give up before its brace is written.
-/

namespace TreePath

namespace Json

open Text (IsAscii isAscii_nil isAscii_append)

/-! ### Texts and the depth -/

/-- A text of ASCII characters that changes the depth by some amount, outside of strings. -/
structure Shifts (k : Int) (s : String) : Prop where
  /-- All characters are ASCII. -/
  isAscii : IsAscii s.toList
  /-- The depth changes. -/
  after_eq (depth : Int) :
    Nesting.after ⟨depth, .outside⟩ s.toList = ⟨depth + k, .outside⟩

section Shifts

variable {k k' : Int} {s t : String}

/-- Texts one after the other shift the depth one after the other. -/
theorem Shifts.append (h : Shifts k s) (h' : Shifts k' t) : Shifts (k + k') (s ++ t) := by
  refine ⟨?_, fun depth ↦ ?_⟩
  · rw [String.toList_append]
    exact isAscii_append.2 ⟨h.isAscii, h'.isAscii⟩
  · rw [String.toList_append, Nesting.after_append, h.after_eq, h'.after_eq, Int.add_assoc]

/-- What leads from outside to outside leaves the depth as it is. -/
theorem shifts_zero (hascii : IsAscii s.toList) (h : Leads .outside .outside s.toList) :
    Shifts 0 s :=
  ⟨hascii, fun depth ↦ (h depth).trans (by rw [Int.add_zero])⟩

theorem shifts_empty : Shifts 0 "" :=
  shifts_zero isAscii_nil (leads_nil .outside)

/-- Blanks are no marks. -/
theorem leads_of_blank {x : List Char} (h : Blank x) : Leads .outside .outside x :=
  leads_of_not_structural fun c hc ↦ not_mem_structural (by decide) (h c hc)

theorem shifts_brackets : Shifts 0 "[]" :=
  ⟨by decide, fun depth ↦ by simp [Nesting.after, Nesting.next]⟩

theorem shifts_braces : Shifts 0 "\x7b\x7d" :=
  ⟨by decide, fun depth ↦ by simp [Nesting.after, Nesting.next]⟩

theorem shifts_colon : Shifts 0 ": " :=
  shifts_zero (by decide) (leads_of_not_structural (not_mem_structural_of_all (by decide)))

theorem shifts_lineStart (l : Layout) (level : Nat) : Shifts 0 (l.lineStart level) :=
  shifts_zero (isAscii_lineStart l level) (leads_of_blank (blank_lineStart l level))

/-- A separator, with what comes before the next item, closes and opens nothing. -/
theorem shifts_separator (l : Layout) (level : Nat) : Shifts 0 (l.separator level) := by
  obtain ⟨b, hb, hlist⟩ := exists_separator l level
  refine shifts_zero (isAscii_separator l level) ?_
  rw [hlist]
  exact (leads_outside (c := ',') (by decide)).append (leads_of_blank hb)

/-- An opening bracket or brace, with the line start after it. -/
theorem shifts_open {mark : String} (hascii : IsAscii mark.toList)
    (h : ∀ depth, Nesting.after ⟨depth, .outside⟩ mark.toList = ⟨depth + 1, .outside⟩)
    (l : Layout) (level : Nat) : Shifts 1 (mark ++ l.lineStart level) := by
  have hmark : Shifts 1 mark := ⟨hascii, h⟩
  exact hmark.append (shifts_lineStart l level)

/-- A closing bracket or brace, with the line start before it. -/
theorem shifts_close {mark : String} (hascii : IsAscii mark.toList)
    (h : ∀ depth, Nesting.after ⟨depth, .outside⟩ mark.toList = ⟨depth + -1, .outside⟩)
    (l : Layout) (level : Nat) : Shifts (-1) (l.lineStart level ++ mark) := by
  have hmark : Shifts (-1) mark := ⟨hascii, h⟩
  exact (shifts_lineStart l level).append hmark

end Shifts

/-! ### Strings -/

/-- A hexadecimal digit neither ends a string nor begins an escape. -/
theorem hexDigit_ne {n : Nat} (h : n < 16) : Text.hexDigit n ≠ '"' ∧ Text.hexDigit n ≠ '\\' := by
  have hall : ∀ n < 16, Text.hexDigit n ≠ '"' ∧ Text.hexDigit n ≠ '\\' := by decide
  exact hall n h

/-- The digits of an escape do not end the string. -/
theorem leads_hexDigits (width n : Nat) : Leads .inside .inside (Text.hexDigits width n) := by
  induction width generalizing n with
  | zero => exact leads_nil .inside
  | succ width ih =>
    rw [Text.hexDigits]
    obtain ⟨hquote, hescape⟩ := hexDigit_ne (Nat.mod_lt n (by decide : 0 < 16))
    exact (ih _).append (leads_inside hquote hescape)

/-- An escape by number stays inside of the string. -/
theorem leads_escapeUnit (n : Nat) : Leads .inside .inside (escapeUnit n) := by
  have hmark : Leads .inside .inside ['\\', 'u'] := fun _ ↦ rfl
  exact hmark.append (leads_hexDigits 4 n)

/-- However a code point is written, the string goes on after it. -/
theorem leads_escape (n : Nat) : Leads .inside .inside (escape n) := by
  rw [escape]
  split_ifs with hquote hescape
  any_goals exact fun _ ↦ rfl
  · -- a printable character stands for itself, and the two that would not are written by letters
    next hprintable =>
    have hn : (Char.ofNat n).toNat = n := Text.toNat_ofNat (Or.inl (by omega))
    refine leads_inside (fun heq ↦ hquote ?_) fun heq ↦ hescape ?_
    · rw [← hn, heq]
    · rw [← hn, heq]
  · exact leads_escapeUnit _
  · exact (leads_escapeUnit _).append (leads_escapeUnit _)

/-- A string is closed where it ends, whatever it is made of. -/
theorem shifts_stringText (s : String) : Shifts 0 (stringText s) := by
  refine shifts_zero (isAscii_stringText s) ?_
  have hopen : Leads .outside .inside ['"'] := fun _ ↦ rfl
  have hclose : Leads .inside .outside ['"'] := fun _ ↦ rfl
  have hbody (ns : List Nat) : Leads .inside .inside (ns.flatMap escape) := by
    induction ns with
    | nil => exact leads_nil .inside
    | cons n ns ih =>
      rw [List.flatMap_cons]
      exact (leads_escape n).append ih
  rw [stringText, String.toList_ofList]
  exact hopen.append ((hbody _).append hclose)

/-- A number or a word leaves the depth as it is, and so does a text with its marks. -/
theorem shifts_plain {s : String} {v : Json} (h : s.toList = plainChars v) : Shifts 0 s := by
  by_cases hv : ∃ t, v = string t
  · obtain ⟨t, rfl⟩ := hv
    have htext : s = stringText t := String.toList_inj.1 h
    exact htext ▸ shifts_stringText t
  · have hbare : Bare (plainChars v) := bare_plainChars fun t ht ↦ hv ⟨t, ht⟩
    rw [← h] at hbare
    exact shifts_zero hbare.isAscii (leads_of_not_structural fun c hc ↦ (hbare c hc).2)

/-! ### The writer -/

/-- A text of ASCII characters with some arrays and objects open, and no string. -/
def Stands (depth : Int) (s : String) : Prop :=
  IsAscii s.toList ∧ Nesting.start.after s.toList = ⟨depth, .outside⟩

/-- A text in which some array or object is open. -/
def Open (s : String) : Prop :=
  ∃ depth > 0, Nesting.start.after s.toList = ⟨depth, .outside⟩

/-- Started at one depth, the computation either comes to its end, at another depth, or gives up
with a complaint, and leaves an open text. -/
def Guarded (d : Int) (m : Writing Unit) (failure : Option Unwritable) (d' : Int) : Prop :=
  ∀ written, Stands d written →
    match failure with
    | none => ∃ written', m.run written = .ok () written' ∧ Stands d' written'
    | some e => ∃ written' depth, m.run written = .error e written' ∧ 0 < depth ∧
        Stands depth written'

section Guarded

variable {d d' d'' k : Int} {m m' : Writing Unit} {failure failure' : Option Unwritable}

/-- What is added to a text shifts its depth. -/
theorem Stands.append {s t : String} (h : Stands d s) (h' : Shifts k t) :
    Stands (d + k) (s ++ t) := by
  refine ⟨?_, ?_⟩
  · rw [String.toList_append]
    exact isAscii_append.2 ⟨h.1, h'.isAscii⟩
  · rw [String.toList_append, Nesting.after_append, h.2, h'.after_eq]

theorem guarded_pure : Guarded d (pure ()) none d :=
  fun written h ↦ ⟨written, rfl, h⟩

/-- To add a text shifts the depth. -/
theorem guarded_emit {s : String} (h : Shifts k s) : Guarded d (emit s) none (d + k) :=
  fun written hwritten ↦ ⟨written ++ s, rfl, hwritten.append h⟩

/-- A text that shifts nothing leaves the depth as it is. -/
theorem guarded_neutral {s : String} (h : Shifts 0 s) : Guarded d (emit s) none d := by
  have hemit := guarded_emit (d := d) h
  rwa [Int.add_zero] at hemit

/-- To give up is fine where something is open. -/
theorem guarded_throw (hd : 0 < d) (e : Unwritable) : Guarded d (throw e) (some e) d' :=
  fun written h ↦ ⟨written, d, rfl, hd, h⟩

/-- The first complaint ends a computation, so that of two complaints it counts. -/
theorem Guarded.bind (h : Guarded d m failure d') (h' : Guarded d' m' failure' d'') :
    Guarded d (m >>= fun _ ↦ m') (failure.or failure') d'' := by
  intro written hwritten
  have hfirst := h written hwritten
  cases failure with
  | none =>
    obtain ⟨written', hrun, hstands⟩ := hfirst
    have hsecond := h' written' hstands
    simpa only [EStateM.run_bind, hrun, Option.none_or] using hsecond
  | some e =>
    obtain ⟨written', depth, hrun, hdepth⟩ := hfirst
    simp only [Option.some_or]
    exact ⟨written', depth, by rw [EStateM.run_bind, hrun], hdepth⟩

end Guarded

section Levels

variable {l : Layout} {level : Nat} {d k : Int} {lead : String}

/-- Where something is open, a value can be written after any lead that closes nothing. -/
def Writable (l : Layout) (level : Nat) (v : Json) : Prop :=
  ∀ {d k : Int} {lead : String}, 0 < d → 0 ≤ k → Shifts k lead →
    Guarded d (write l level lead v) v.unwritable? (d + k)

/-- What is written in one piece can be written after any lead. -/
theorem guarded_plain {v : Json} {s : String} (hs : s.toList = plainChars v)
    (hlead : Shifts k lead) : Guarded d (emit (lead ++ s)) none (d + k) := by
  have hall := guarded_emit (d := d) (hlead.append (shifts_plain hs))
  rwa [Int.add_zero] at hall

/-- An array is written if its items are: the first where its bracket is open, the others after a
separator each. -/
theorem guarded_array (hd : 0 < d) (hk : 0 ≤ k) (hlead : Shifts k lead) {v : Json}
    {rest : List Json} (hv : Writable l (level + 1) v)
    (hrest : ∀ {d}, 0 < d → Guarded d (writeItems l level (l.separator level) rest)
      (unwritableAmong? rest) d) :
    Guarded d (write l level lead (array (v :: rest))) (array (v :: rest)).unwritable? (d + k) := by
  have hbracket : Shifts 1 ("[" ++ l.lineStart level) :=
    shifts_open (by decide) (fun _ ↦ rfl) l level
  have hclose : Guarded (d + k + 1) (emit (l.lineStart (level - 1) ++ "]")) none (d + k + 1 + -1) :=
    guarded_emit (shifts_close (by decide) (fun _ ↦ rfl) l (level - 1))
  have hitems := (hv (d := d + k) (by omega) (by decide) hbracket).bind (hrest (by omega))
  have hall := (guarded_emit (d := d) hlead).bind (hitems.bind hclose)
  rw [Option.none_or, Option.or_none, Int.add_neg_cancel_right] at hall
  rw [write, writeItems, unwritable?, unwritableAmong?]
  exact hall

/-- An object is written if its members are. It gives up behind its brace at the earliest, so that
nothing else need be open. -/
theorem guarded_object (hd : 0 ≤ d) (hk : 0 ≤ k) (hlead : Shifts k lead) {name : String} {v : Json}
    {rest : List (String × Json)} (hv : Writable l (level + 1) v)
    (hrest : ∀ {d}, 0 < d → Guarded d (writeMembers l level (l.separator level) rest)
      (unwritableMember? rest) d) :
    Guarded d (write l level lead (object ((name, v) :: rest)))
      (object ((name, v) :: rest)).unwritable? (d + k) := by
  have hbrace : Shifts 1 ("\x7b" ++ l.lineStart level) :=
    shifts_open (by decide) (fun _ ↦ rfl) l level
  have hname : Shifts 1 ("\x7b" ++ l.lineStart level ++ stringText name ++ ": ") :=
    (hbrace.append (shifts_stringText name)).append shifts_colon
  have hclose : Guarded (d + k + 1) (emit (l.lineStart (level - 1) ++ "\x7d")) none
      (d + k + 1 + -1) :=
    guarded_emit (shifts_close (by decide) (fun _ ↦ rfl) l (level - 1))
  have hvalue := hv (d := d + k + 1) (by omega) (Int.le_refl 0) shifts_empty
  rw [Int.add_zero] at hvalue
  have hmembers := (guarded_emit (d := d + k) hname).bind (hvalue.bind (hrest (by omega)))
  have hall := (guarded_emit (d := d) hlead).bind (hmembers.bind hclose)
  rw [Option.none_or, Option.none_or, Option.or_none, Int.add_neg_cancel_right] at hall
  rw [write, writeMembers, unwritable?, unwritableMember?]
  exact hall

end Levels

mutual

/-- A value is written up to the first part of it that cannot be written. -/
theorem guarded_write (l : Layout) : ∀ (v : Json) (level : Nat), Writable l level v
  | null, _, _, _, _, _, _, hlead => guarded_plain (v := null) rfl hlead
  | bool b, _, _, _, _, _, _, hlead => guarded_plain (v := bool b) rfl hlead
  | float x, _, _, _, _, _, _, hlead => guarded_plain (v := float x) rfl hlead
  | string s, _, _, _, _, _, _, hlead => guarded_plain (v := string s) rfl hlead
  | int i, _, _, _, _, hd, _, hlead => by
    rw [write, unwritable?]
    split
    · exact guarded_throw hd .tooLong
    · exact guarded_plain (v := int i) rfl hlead
  | array [], _, _, _, _, _, _, hlead => by
    rw [write, unwritable?, unwritableAmong?]
    exact (guarded_emit hlead).bind (guarded_neutral shifts_brackets)
  | array (v :: rest), level, _, _, _, hd, hk, hlead =>
    guarded_array hd hk hlead (guarded_write l v (level + 1)) (guarded_writeItems l rest level)
  | object [], _, _, _, _, _, _, hlead => by
    rw [write, unwritable?, unwritableMember?]
    exact (guarded_emit hlead).bind (guarded_neutral shifts_braces)
  | object ((_, v) :: rest), level, _, _, _, hd, hk, hlead =>
    guarded_object (Int.le_of_lt hd) hk hlead (guarded_write l v (level + 1))
      (guarded_writeMembers l rest level)
  | foreign typeName, _, _, _, _, hd, hk, hlead => by
    rw [write, unwritable?]
    exact (guarded_emit hlead).bind (guarded_throw (by omega) (.foreign typeName))

/-- So are the items after a separator. -/
theorem guarded_writeItems (l : Layout) : ∀ (items : List Json) (level : Nat) {d : Int}, 0 < d →
    Guarded d (writeItems l level (l.separator level) items) (unwritableAmong? items) d
  | [], _, _, _ => by
    rw [writeItems, unwritableAmong?]
    exact guarded_pure
  | v :: rest, level, d, hd => by
    have hv := guarded_write l v (level + 1) hd (Int.le_refl 0) (shifts_separator l level)
    rw [Int.add_zero] at hv
    rw [writeItems, unwritableAmong?]
    exact hv.bind (guarded_writeItems l rest level hd)

/-- And the members. -/
theorem guarded_writeMembers (l : Layout) :
    ∀ (members : List (String × Json)) (level : Nat) {d : Int}, 0 < d →
      Guarded d (writeMembers l level (l.separator level) members) (unwritableMember? members) d
  | [], _, _, _ => by
    rw [writeMembers, unwritableMember?]
    exact guarded_pure
  | (name, v) :: rest, level, d, hd => by
    have hname : Shifts 0 (l.separator level ++ stringText name ++ ": ") :=
      ((shifts_separator l level).append (shifts_stringText name)).append shifts_colon
    have hv := guarded_write l v (level + 1) hd (Int.le_refl 0) shifts_empty
    rw [Int.add_zero] at hv
    rw [writeMembers, unwritableMember?]
    exact (guarded_neutral hname).bind (hv.bind (guarded_writeMembers l rest level hd))

end

/-- What is written of an object is ASCII. It is all of it, unless some part cannot be written: then
the complaint is about the first such part, and what was written is open. -/
theorem text_object (l : Layout) (members : List (String × Json)) :
    IsAscii (text l (object members)).1.toList ∧
      (text l (object members)).2 = unwritableMember? members ∧
      ((unwritableMember? members).isSome → Open (text l (object members)).1) := by
  have hguarded : Guarded 0 (write l 1 "" (object members)) (unwritableMember? members) 0 := by
    cases members with
    | nil =>
      rw [write, unwritableMember?]
      exact (guarded_neutral shifts_empty).bind (guarded_neutral shifts_braces)
    | cons e rest =>
      exact guarded_object (Int.le_refl 0) (Int.le_refl 0) shifts_empty
        (guarded_write l e.2 (1 + 1)) (guarded_writeMembers l rest 1)
  have hwritten := hguarded "" ⟨isAscii_nil, rfl⟩
  cases hfailure : unwritableMember? members with
  | none =>
    rw [hfailure] at hwritten
    obtain ⟨written, hrun, hstands⟩ := hwritten
    have hrun' : write l 1 "" (object members) "" = .ok () written := hrun
    rw [text, hrun']
    exact ⟨hstands.1, rfl, by simp⟩
  | some e =>
    rw [hfailure] at hwritten
    obtain ⟨written, depth, hrun, hdepth, hstands⟩ := hwritten
    have hrun' : write l 1 "" (object members) "" = .error e written := hrun
    rw [text, hrun']
    exact ⟨hstands.1, rfl, fun _ ↦ ⟨depth, hdepth, hstands.2⟩⟩

/-- An open text does not stand for any value. -/
theorem read_ne_ok_of_open {s : String} (h : Open s) (v : Json) : read s ≠ .ok v := by
  intro hread
  obtain ⟨depth, hpos, hdepth⟩ := h
  rw [after_of_read hread] at hdepth
  have hzero : 0 = depth := congrArg Nesting.depth hdepth
  omega

end Json

end TreePath
