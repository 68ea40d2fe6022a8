import TreePath.Json.Writer
import TreePath.Proofs.Config.Proper
import TreePath.Proofs.Text.Ascii

/-!
# What is written of a value

The writer adds to what was written before, and may stop on the way, at the first part of the value
that cannot be written (`Json.unwritable?`). If there is none it does not stop, and what it adds
does not depend on what was there (`writes_write`): it is the text of the value (`Json.chars`), a
function on characters that needs no state. What the reader makes of that text is the subject of
`TreePath.Proofs.Json.Restoring`, what is left when the writer stops that of
`TreePath.Proofs.Json.Interrupted`.

The writer hands the bracket or comma before an item to the writer of the item, while the text of an
array is put together of brackets, items and separators. The two are reconciled once for arrays
(`writes_array`) and once for objects (`writes_object`); the induction over values only collects
them.

What the writer adds at one go is ASCII, whatever the value. Numbers and words have no mark in them
besides (`bare_plainChars`), so that they can stand wherever the parts of a text are told apart by
their marks.
-/

namespace TreePath

namespace Json

open Text (IsAscii isAscii_nil isAscii_append isAscii_cons)

/-! ### The text of a value -/

/-- The text of a value without parts. -/
def plainChars : Json → List Char
  | null => "null".toList
  | bool b => (if b then "true" else "false").toList
  | int i => (toString i).toList
  | float x => (numberLayout.writeFloat x).toList
  | string s => (stringText s).toList
  | _ => []

/-- The name of a member, with what stands between it and the value. -/
def nameChars (name : String) : List Char :=
  (stringText name).toList ++ [':', ' ']

mutual

/-- The text of a value. -/
def chars (l : Layout) (level : Nat) : Json → List Char
  | array [] => ['[', ']']
  | array (v :: rest) =>
    '[' :: (l.lineStart level).toList ++
      (chars l (level + 1) v ++ (furtherItems l level rest ++
        ((l.lineStart (level - 1)).toList ++ [']'])))
  | object [] => ['\x7b', '\x7d']
  | object ((name, v) :: rest) =>
    '\x7b' :: (l.lineStart level).toList ++
      (nameChars name ++ (chars l (level + 1) v ++ (furtherMembers l level rest ++
        ((l.lineStart (level - 1)).toList ++ ['\x7d']))))
  | v => plainChars v

/-- The text of the items after the first. -/
def furtherItems (l : Layout) (level : Nat) : List Json → List Char
  | [] => []
  | v :: rest =>
    (l.separator level).toList ++ (chars l (level + 1) v ++ furtherItems l level rest)

/-- The text of the members after the first. -/
def furtherMembers (l : Layout) (level : Nat) : List (String × Json) → List Char
  | [] => []
  | (name, v) :: rest =>
    (l.separator level).toList ++
      (nameChars name ++ (chars l (level + 1) v ++ furtherMembers l level rest))

end

/-! ### What cannot be written -/

mutual

/-- The complaint about the first part of a value that cannot be written. -/
def unwritable? : Json → Option Unwritable
  | null | bool _ | float _ | string _ => none
  | int i => if Decimal.isTooLong i then some .tooLong else none
  | array items => unwritableAmong? items
  | object members => unwritableMember? members
  | foreign typeName => some (.foreign typeName)

/-- The complaint about the first part of several values that cannot be written. -/
def unwritableAmong? : List Json → Option Unwritable
  | [] => none
  | v :: rest => (unwritable? v).or (unwritableAmong? rest)

/-- The complaint about the first part of several members that cannot be written. -/
def unwritableMember? : List (String × Json) → Option Unwritable
  | [] => none
  | (_, v) :: rest => (unwritable? v).or (unwritableMember? rest)

end

/-- All items can be written if each can. -/
theorem unwritableAmong?_eq_none_iff {items : List Json} :
    unwritableAmong? items = none ↔ ∀ v ∈ items, v.unwritable? = none := by
  induction items with
  | nil => simp [unwritableAmong?]
  | cons v rest ih => rw [unwritableAmong?, Option.or_eq_none_iff, ih, List.forall_mem_cons]

/-- All members can be written if each value can. -/
theorem unwritableMember?_eq_none_iff {members : List (String × Json)} :
    unwritableMember? members = none ↔ ∀ e ∈ members, e.2.unwritable? = none := by
  induction members with
  | nil => simp [unwritableMember?]
  | cons e rest ih => rw [unwritableMember?, Option.or_eq_none_iff, ih, List.forall_mem_cons]

/-! ### The writer writes that text -/

/-- The computation adds a text to what was written before. -/
def Writes (m : Writing Unit) (x : List Char) : Prop :=
  ∀ written, m.run written = .ok () (written ++ String.ofList x)

theorem writes_pure : Writes (pure ()) [] := by
  intro written
  simp [EStateM.run, pure, EStateM.pure]

theorem writes_emit (s : String) : Writes (emit s) s.toList := by
  intro written
  rw [String.ofList_toList]
  rfl

theorem writes_emit_append (s t : String) : Writes (emit (s ++ t)) (s.toList ++ t.toList) := by
  have hemit := writes_emit (s ++ t)
  rwa [String.toList_append] at hemit

/-- What is written one after the other stands one after the other. -/
theorem Writes.bind {m m' : Writing Unit} {x y : List Char} (h : Writes m x) (h' : Writes m' y) :
    Writes (m >>= fun _ ↦ m') (x ++ y) := by
  intro written
  rw [EStateM.run_bind, h written]
  show m'.run (written ++ String.ofList x) = _
  rw [h', String.append_assoc, ← String.ofList_append]

section Levels

variable {l : Layout} {level : Nat}

/-- An array is written if its items are: the first after the opening bracket, the others after a
separator each. -/
theorem writes_array {lead : String} {v : Json} {rest : List Json}
    (hv : ∀ lead, Writes (write l (level + 1) lead v) (lead.toList ++ chars l (level + 1) v))
    (hrest : Writes (writeItems l level (l.separator level) rest) (furtherItems l level rest)) :
    Writes (write l level lead (array (v :: rest)))
      (lead.toList ++ chars l level (array (v :: rest))) := by
  have hfirst := hv ("[" ++ l.lineStart level)
  have hclose := writes_emit_append (l.lineStart (level - 1)) "]"
  rw [String.toList_append] at hfirst
  have hall := (writes_emit lead).bind ((hfirst.bind hrest).bind hclose)
  rw [write, chars, writeItems]
  simpa using hall

/-- An object is written if its members are. -/
theorem writes_object {lead name : String} {v : Json} {rest : List (String × Json)}
    (hv : ∀ lead, Writes (write l (level + 1) lead v) (lead.toList ++ chars l (level + 1) v))
    (hrest : Writes (writeMembers l level (l.separator level) rest)
      (furtherMembers l level rest)) :
    Writes (write l level lead (object ((name, v) :: rest)))
      (lead.toList ++ chars l level (object ((name, v) :: rest))) := by
  have hname := writes_emit ("\x7b" ++ l.lineStart level ++ stringText name ++ ": ")
  have hclose := writes_emit_append (l.lineStart (level - 1)) "\x7d"
  simp only [String.toList_append] at hname
  have hall := (writes_emit lead).bind ((hname.bind ((hv "").bind hrest)).bind hclose)
  rw [write, chars, writeMembers]
  simpa [nameChars] using hall

end Levels

mutual

/-- A value is written to the end if no part of it cannot be written. -/
theorem writes_write (l : Layout) : ∀ {v : Json} (level : Nat) (lead : String),
    v.unwritable? = none → Writes (write l level lead v) (lead.toList ++ chars l level v)
  | null, _, _, _ | bool _, _, _, _ | float _, _, _, _ | string _, _, _, _ => by
    rw [write]
    exact writes_emit_append _ _
  | int i, _, _, h => by
    rw [unwritable?, ite_eq_right_iff] at h
    rw [write, if_neg fun hlong ↦ nomatch h hlong]
    exact writes_emit_append _ _
  | array [], _, lead, _ => by
    rw [write]
    exact (writes_emit lead).bind (writes_emit "[]")
  | array (v :: rest), level, _, h => by
    rw [unwritable?, unwritableAmong?, Option.or_eq_none_iff] at h
    exact writes_array (fun lead ↦ writes_write l (level + 1) lead h.1)
      (writes_writeItems l level h.2)
  | object [], _, lead, _ => by
    rw [write]
    exact (writes_emit lead).bind (writes_emit "\x7b\x7d")
  | object ((_, v) :: rest), level, _, h => by
    rw [unwritable?, unwritableMember?, Option.or_eq_none_iff] at h
    exact writes_object (fun lead ↦ writes_write l (level + 1) lead h.1)
      (writes_writeMembers l level h.2)
  | foreign _, _, _, h => by
    rw [unwritable?] at h
    cases h

/-- So are the items that come after a separator. -/
theorem writes_writeItems (l : Layout) : ∀ {items : List Json} (level : Nat),
    unwritableAmong? items = none →
      Writes (writeItems l level (l.separator level) items) (furtherItems l level items)
  | [], _, _ => writes_pure
  | v :: rest, level, h => by
    rw [unwritableAmong?, Option.or_eq_none_iff] at h
    rw [writeItems, furtherItems, ← List.append_assoc]
    exact (writes_write l (level + 1) _ h.1).bind (writes_writeItems l level h.2)

/-- And the members. -/
theorem writes_writeMembers (l : Layout) : ∀ {members : List (String × Json)} (level : Nat),
    unwritableMember? members = none →
      Writes (writeMembers l level (l.separator level) members) (furtherMembers l level members)
  | [], _, _ => writes_pure
  | (name, v) :: rest, level, h => by
    rw [unwritableMember?, Option.or_eq_none_iff] at h
    have hname := writes_emit (l.separator level ++ stringText name ++ ": ")
    simp only [String.toList_append] at hname
    have hv := writes_write l (level + 1) "" h.1
    have hall := hname.bind (hv.bind (writes_writeMembers l level h.2))
    rw [writeMembers, furtherMembers]
    simpa [nameChars] using hall

end

/-- The text of a value, without a complaint, if no part of it cannot be written. -/
theorem text_eq_of_unwritable? {v : Json} (hv : v.unwritable? = none) (l : Layout) :
    text l v = (String.ofList (chars l 1 v), none) := by
  have hrun : write l 1 "" v "" = .ok () ("" ++ String.ofList (chars l 1 v)) :=
    writes_write l 1 "" hv ""
  rw [text, hrun, String.empty_append]

/-! ### Strings -/

/-- Hexadecimal digits are ASCII. -/
theorem isAscii_hexDigits (width n : Nat) : IsAscii (Text.hexDigits width n) := by
  have hdigit : ∀ m < 16, (Text.hexDigit m).toNat < 0x80 := by decide
  induction width generalizing n with
  | zero => exact isAscii_nil
  | succ width ih =>
    rw [Text.hexDigits, isAscii_append]
    exact ⟨ih (n / 16), isAscii_cons.2 ⟨hdigit _ (Nat.mod_lt n (by omega)), isAscii_nil⟩⟩

/-- So is an escape by number. -/
theorem isAscii_escapeUnit (n : Nat) : IsAscii (escapeUnit n) :=
  isAscii_cons.2 ⟨by decide, isAscii_cons.2 ⟨by decide, isAscii_hexDigits 4 n⟩⟩

/-- So is whatever a code point is written as. -/
theorem isAscii_escape (n : Nat) : IsAscii (escape n) := by
  have hpair : ∀ c : Char, c.toNat < 0x80 → IsAscii ['\\', c] := fun c hc ↦
    isAscii_cons.2 ⟨by decide, isAscii_cons.2 ⟨hc, isAscii_nil⟩⟩
  rw [escape]
  repeat' split
  all_goals try exact hpair _ (by decide)
  · next h =>
    have hvalid : n.isValidChar := Or.inl (by omega)
    refine isAscii_cons.2 ⟨?_, isAscii_nil⟩
    rw [Text.toNat_ofNat hvalid]
    omega
  · exact isAscii_escapeUnit n
  · exact isAscii_append.2 ⟨isAscii_escapeUnit _, isAscii_escapeUnit _⟩

/-- So is a string that is written, whatever the string is. -/
theorem isAscii_stringText (s : String) : IsAscii (stringText s).toList := by
  rw [stringText, String.toList_ofList]
  refine isAscii_cons.2 ⟨by decide, isAscii_append.2 ⟨?_, by decide⟩⟩
  intro c hc
  obtain ⟨n, -, hmem⟩ := List.mem_flatMap.1 hc
  exact isAscii_escape n c hmem

/-! ### Numbers and words -/

/-- The marks that set off the parts of a text. -/
def structural : List Char := ['"', '[', ']', '\x7b', '\x7d']

/-- Text of ASCII characters without any of these marks. -/
def Bare (s : List Char) : Prop :=
  ∀ c ∈ s, c.toNat < 0x80 ∧ c ∉ structural

instance (s : List Char) : Decidable (Bare s) :=
  List.decidableBAll (fun c : Char ↦ c.toNat < 0x80 ∧ c ∉ structural) s

theorem bare_nil : Bare [] :=
  fun _ hc ↦ absurd hc List.not_mem_nil

/-- Two texts are bare together if each is. -/
theorem bare_append {s t : List Char} : Bare (s ++ t) ↔ Bare s ∧ Bare t :=
  List.forall_mem_append

theorem bare_cons {c : Char} {s : List Char} :
    Bare (c :: s) ↔ (c.toNat < 0x80 ∧ c ∉ structural) ∧ Bare s :=
  List.forall_mem_cons

theorem Bare.isAscii {s : List Char} (h : Bare s) : IsAscii s :=
  fun c hc ↦ (h c hc).1

/-- A whole number is written without marks. -/
theorem bare_toString_nat (n : Nat) : Bare (toString n).toList := by
  intro c hc
  rw [Nat.toString_eq_ofList_toDigits, String.toList_ofList] at hc
  have hdigit := Nat.isDigit_of_mem_toDigits (by omega) (by omega) hc
  have hbound := (Char.isDigit_iff_toNat.1 hdigit).2
  have hnine : '9'.toNat = 57 := rfl
  refine ⟨by omega, fun hmark ↦ ?_⟩
  simp only [structural, List.mem_cons, List.not_mem_nil, or_false] at hmark
  rcases hmark with rfl | rfl | rfl | rfl | rfl <;> cases hdigit

/-- So is its sign. -/
theorem bare_toString_int (i : Int) : Bare (toString i).toList := by
  rw [Int.toString_eq_repr, Int.repr_eq_if]
  split
  · exact bare_toString_nat i.toNat
  · rw [String.toList_append]
    exact bare_append.2 ⟨by decide, bare_toString_nat (-i).toNat⟩

theorem bare_replicate_zero (n : Nat) : Bare (List.replicate n '0') := by
  intro c hc
  rw [List.eq_of_mem_replicate hc]
  decide

/-- So is an exponent. -/
theorem bare_exponentText (e : Int) : Bare (Decimal.exponentText e).toList := by
  have hdigits := bare_toString_nat e.natAbs
  rw [Decimal.exponentText, String.toList_append, bare_append]
  constructor
  · split <;> decide
  · split
    · rw [String.toList_append, bare_append]
      exact ⟨by decide, hdigits⟩
    · exact hdigits

/-- Digits under a layout, with a point and an exponent where they go. -/
theorem bare_write (d : Decimal.Digits) : Bare (numberLayout.write d).toList := by
  have hdigits := bare_toString_nat d.digits
  rw [Decimal.Layout.write]
  generalize (toString d.digits).toList = digits at hdigits
  simp only
  split
  · split
    · simp only [String.toList_append, String.toList_ofList, bare_append]
      exact ⟨⟨hdigits, bare_replicate_zero _⟩, by decide⟩
    · split
      · simp only [String.toList_append, String.toList_ofList, bare_append]
        exact ⟨⟨fun c hc ↦ hdigits c (List.mem_of_mem_take hc), by decide⟩,
          fun c hc ↦ hdigits c (List.mem_of_mem_drop hc)⟩
      · simp only [String.toList_append, String.toList_ofList, bare_append]
        exact ⟨by decide, bare_replicate_zero _, hdigits⟩
  · split
    · decide
    · next c =>
      simp only [String.toList_append, Char.toString_eq_singleton, String.toList_singleton,
        bare_append]
      exact ⟨⟨hdigits, by decide⟩, bare_exponentText _⟩
    · next c rest _ =>
      obtain ⟨hc, hrest⟩ := bare_cons.1 hdigits
      simp only [String.toList_append, String.toList_ofList, Char.toString_eq_singleton,
        String.toList_singleton, bare_append]
      exact ⟨⟨⟨⟨bare_cons.2 ⟨hc, bare_nil⟩, by decide⟩, hrest⟩, by decide⟩,
        bare_exponentText _⟩

/-- So is any float, the words for those that are no numbers included. -/
theorem bare_writeFloat (x : Float) : Bare (numberLayout.writeFloat x).toList := by
  rw [Decimal.Layout.writeFloat]
  split
  · decide
  · rw [String.toList_append, bare_append]
    exact ⟨by split <;> decide, by decide⟩
  · rw [String.toList_append, bare_append]
    refine ⟨by split <;> decide, ?_⟩
    split
    · decide
    · exact bare_write _

/-- A number or a word has no mark in it. -/
theorem bare_plainChars {v : Json} (hv : ∀ s, v ≠ string s) : Bare (plainChars v) := by
  cases v with
  | null => decide
  | bool b => cases b <;> decide
  | int i => exact bare_toString_int i
  | float x => exact bare_writeFloat x
  | string s => exact absurd rfl (hv s)
  | _ => exact bare_nil

/-! ### What stands between values -/

/-- The start of a line is ASCII. -/
theorem isAscii_lineStart (l : Layout) (level : Nat) : IsAscii (l.lineStart level).toList := by
  rw [Layout.lineStart]
  split
  · decide
  · simp only [String.toList_append, String.toList_ofList, isAscii_append]
    refine ⟨by decide, fun c hc ↦ ?_⟩
    rw [List.eq_of_mem_replicate hc]
    decide

/-- So is a separator. -/
theorem isAscii_separator (l : Layout) (level : Nat) : IsAscii (l.separator level).toList := by
  rw [Layout.separator]
  split
  · decide
  · rw [String.toList_append, isAscii_append]
    exact ⟨by decide, isAscii_lineStart l level⟩

end Json

end TreePath
