import TreePath.Proofs.Json.Leaves

/-!
# Reading back what was written

A value that JSON can express is read back from what is written of it if its texts and numbers are
(`read_text`). The reader takes exactly the text of a value off the front of whatever follows
(`Json.Reads`), so that the texts of items and members can be read one after the other; the fuel it
needs is at most the length of the text.

Whether a text or a whole number is read back is known (`Unpaired`, `Decimal.digitLimit`). Of a
floating-point number it has to be assumed, since the numbers themselves are not open to proof; and
it has to be assumed of the number by itself only, since nothing else has an influence on it.

The writer may leave blanks between the parts of a value or none, depending on the layout, and the
reader skips them wherever they stand. So the layout is a parameter of all statements, and the only
thing that is known of it is that what it puts between parts is a comma with blanks
(`exists_separator`).

Members are read into a list that grows. To read them back means that no name occurs twice, and the
hypothesis is carried along as a statement on the names that were read and those still to come
(`Named`).
-/

namespace TreePath

namespace Json

/-! ### Blanks -/

/-- All characters are blanks of JSON. -/
def Blank (s : List Char) : Prop :=
  ∀ c ∈ s, isBlank c = true

instance (s : List Char) : Decidable (Blank s) :=
  List.decidableBAll (fun c : Char ↦ isBlank c = true) s

/-- Blanks in front make no difference. -/
theorem dropBlanks_append {b : List Char} (hb : Blank b) (s : List Char) :
    dropBlanks (b ++ s) = dropBlanks s :=
  List.dropWhile_append_of_pos hb

/-- What does not begin with a blank stays as it is. -/
theorem dropBlanks_cons {c : Char} (h : isBlank c = false) (s : List Char) :
    dropBlanks (c :: s) = c :: s := by
  rw [dropBlanks, List.dropWhile_cons, h, if_neg (by simp)]

/-- A new line begins with blanks only. -/
theorem blank_lineStart (l : Layout) (level : Nat) : Blank (l.lineStart level).toList := by
  rw [Layout.lineStart]
  split
  · have hnone : Blank "".toList := by decide
    exact hnone
  · simp only [String.toList_append, String.toList_ofList]
    have hbreak : Blank "\n".toList := by decide
    refine List.forall_mem_append.2 ⟨hbreak, fun c hc ↦ ?_⟩
    rw [List.eq_of_mem_replicate hc]
    rfl

/-- A separator is a comma with blanks after it. -/
theorem exists_separator (l : Layout) (level : Nat) :
    ∃ b, Blank b ∧ (l.separator level).toList = ',' :: b := by
  rw [Layout.separator]
  split
  · exact ⟨[' '], by decide, rfl⟩
  · exact ⟨_, blank_lineStart l level, by rw [String.toList_append]; rfl⟩

/-- A text ends what is before it if it begins with a mark that does. -/
theorem ends_cons {c : Char} (h : c ∈ enders) (rest : List Char) : Ends (c :: rest) := by
  intro d hd
  exact Option.some.inj hd ▸ h

/-- Blanks end a number, and so does what closes an item. -/
theorem ends_append {b : List Char} (hb : Blank b) {c : Char} (hc : c ∈ [',', ']', '\x7d'])
    (rest : List Char) : Ends (b ++ c :: rest) := by
  cases b with
  | nil => exact ends_cons (List.mem_append_right [' ', '\t', '\n', '\r'] hc) rest
  | cons d b =>
    have hd : isBlank d = true := hb d List.mem_cons_self
    refine ends_cons ?_ (b ++ c :: rest)
    simp only [isBlank, Bool.or_eq_true, beq_iff_eq] at hd
    rcases hd with ((rfl | rfl) | rfl) | rfl <;> decide

/-! ### Values and what follows -/

/-- A value is what the reader makes of a text and leaves what follows, in which it can be told from
the end of an array or object. -/
structure Reads (v : Json) (x : List Char) : Prop where
  /-- The text begins with a character that is no blank and closes nothing. -/
  begins : ∃ c t, x = c :: t ∧ isBlank c = false ∧ c ≠ ']' ∧ c ≠ '\x7d'
  /-- The reader takes the text off the front. -/
  reads {fuel : Nat} {rest : List Char} (hfuel : x.length ≤ fuel) (hrest : Ends rest) :
    readValue fuel (x ++ rest) = .ok (v, rest)

/-- Reading a text that is not empty takes fuel. -/
theorem exists_fuel {c : Char} {t : List Char} {fuel : Nat} (h : (c :: t).length ≤ fuel) :
    ∃ k, fuel = k + 1 :=
  Nat.exists_eq_add_one.2 (Nat.lt_of_lt_of_le (Nat.succ_pos t.length) h)

/-- The reader of values skips blanks. -/
theorem readValue_blanks {b : List Char} (hb : Blank b) (fuel : Nat) (s : List Char) :
    readValue fuel (b ++ s) = readValue fuel s := by
  cases fuel with
  | zero => rfl
  | succ fuel => rw [readValue.eq_def, readValue.eq_def]; simp only [dropBlanks_append hb]

/-- So does the reader of items. -/
theorem readItems_blanks {b : List Char} (hb : Blank b) (fuel : Nat) (s : List Char) :
    readItems fuel (b ++ s) = readItems fuel s := by
  cases fuel with
  | zero => rfl
  | succ fuel => rw [readItems.eq_def, readItems.eq_def]; simp only [readValue_blanks hb]

/-- So does the reader of members. -/
theorem readMembers_blanks {b : List Char} (hb : Blank b) (fuel : Nat) (s : List Char)
    (read : Entries Json) : readMembers fuel (b ++ s) read = readMembers fuel s read := by
  cases fuel with
  | zero => rfl
  | succ fuel => rw [readMembers.eq_def, readMembers.eq_def]; simp only [dropBlanks_append hb]

/-! ### Arrays -/

section Levels

variable {l : Layout} {level : Nat}

/-- Items are read back if each of them is. -/
theorem readItems_chars {v : Json} {vs : List Json}
    (hv : Reads v (chars l (level + 1) v)) (hvs : ∀ w ∈ vs, Reads w (chars l (level + 1) w))
    {b : List Char} (hb : Blank b) {fuel : Nat} {rest : List Char}
    (hfuel : (chars l (level + 1) v ++ furtherItems l level vs).length < fuel) :
    readItems fuel (chars l (level + 1) v ++ (furtherItems l level vs ++ (b ++ ']' :: rest))) =
      .ok (v :: vs, rest) := by
  induction vs generalizing v fuel with
  | nil =>
    obtain ⟨fuel, rfl⟩ : ∃ k, fuel = k + 1 := ⟨fuel - 1, by omega⟩
    rw [furtherItems, List.append_nil] at hfuel
    have hends : Ends (b ++ ']' :: rest) := ends_append hb (by simp) rest
    have hclose : dropBlanks (']' :: rest) = ']' :: rest := dropBlanks_cons rfl rest
    rw [furtherItems, List.nil_append, readItems, hv.reads (Nat.le_of_lt_succ hfuel) hends]
    simp only [dropBlanks_append hb, hclose]
  | cons w ws ih =>
    obtain ⟨fuel, rfl⟩ : ∃ k, fuel = k + 1 := ⟨fuel - 1, by omega⟩
    obtain ⟨hw, hws⟩ := List.forall_mem_cons.1 hvs
    obtain ⟨b', hb', hseparator⟩ := exists_separator l level
    -- the comma before the next item is worth the unit of fuel that this one takes
    rw [furtherItems, hseparator] at hfuel ⊢
    simp only [List.length_append, List.length_cons, List.append_assoc, List.cons_append]
      at hfuel ⊢
    have hread (t : List Char) : readValue fuel (chars l (level + 1) v ++ ',' :: t) =
        .ok (v, ',' :: t) :=
      hv.reads (by omega) (ends_cons (by decide) t)
    have hcomma (t : List Char) : dropBlanks (',' :: t) = ',' :: t := dropBlanks_cons rfl t
    have hmore : readItems fuel
        (chars l (level + 1) w ++ (furtherItems l level ws ++ (b ++ ']' :: rest))) =
        .ok (w :: ws, rest) :=
      ih hw hws (by rw [List.length_append]; omega)
    rw [readItems, hread]
    simp only [hcomma, readItems_blanks hb', hmore]
    rfl

/-- An array is read by its items, unless it is closed at once. -/
theorem readValue_array {fuel : Nat} {b : List Char} (hb : Blank b) {c : Char}
    (hblank : isBlank c = false) (hclose : c ≠ ']') (t : List Char) :
    readValue (fuel + 1) ('[' :: (b ++ c :: t)) =
      (readItems fuel (c :: t)).map fun r ↦ (array r.1, r.2) := by
  have hopen (s : List Char) : dropBlanks ('[' :: s) = '[' :: s := dropBlanks_cons rfl s
  rw [readValue.eq_def]
  simp only [hopen, dropBlanks_append hb, dropBlanks_cons hblank]
  split
  · next heq => exact absurd (List.head_eq_of_cons_eq heq) hclose
  · rfl

/-- The text of an array with items that are read back is read back. -/
theorem reads_array {items : List Json}
    (h : ∀ v ∈ items, Reads v (chars l (level + 1) v)) :
    Reads (array items) (chars l level (array items)) := by
  cases items with
  | nil =>
    rw [chars]
    refine ⟨⟨'[', [']'], rfl, rfl, by decide, by decide⟩, fun {fuel rest} hfuel _ ↦ ?_⟩
    obtain ⟨fuel, rfl⟩ := exists_fuel hfuel
    rfl
  | cons v vs =>
    obtain ⟨hv, hvs⟩ := List.forall_mem_cons.1 h
    rw [chars]
    refine ⟨⟨'[', _, rfl, rfl, by decide, by decide⟩, fun {fuel rest} hfuel _ ↦ ?_⟩
    obtain ⟨fuel, rfl⟩ := exists_fuel hfuel
    obtain ⟨c, t, hbegins, hblank, hclose, -⟩ := hv.begins
    have hitems : readItems fuel (chars l (level + 1) v ++ (furtherItems l level vs ++
        ((l.lineStart (level - 1)).toList ++ ']' :: rest))) = .ok (v :: vs, rest) := by
      refine readItems_chars hv hvs (blank_lineStart l (level - 1)) ?_
      simp only [List.cons_append, List.length_cons, List.length_append] at hfuel ⊢
      omega
    rw [hbegins, List.cons_append] at hitems
    simp only [List.cons_append, List.append_assoc, List.nil_append, hbegins,
      readValue_array (blank_lineStart l level) hblank hclose, hitems]
    rfl

/-! ### Objects -/

/-- What is read after a member: the end of the object, or more members. -/
def readFurther (fuel : Nat) (s : List Char) (read : Entries Json) :
    Except ReadError (Entries Json × List Char) :=
  match dropBlanks s with
  | '\x7d' :: rest => .ok (read, rest)
  | ',' :: rest => readMembers fuel rest read
  | _ => .error .malformed

/-- A member is read by its name and its value. -/
theorem readMembers_member {name : String} (hname : Unpaired (Text.points name.toList)) {fuel : Nat}
    {v : Json} {s t : List Char} (hv : readValue fuel s = .ok (v, t)) (read : Entries Json) :
    readMembers (fuel + 1) (nameChars name ++ s) read =
      readFurther fuel t (read.put name v) := by
  have hopen (s : List Char) : dropBlanks ('"' :: s) = '"' :: s := dropBlanks_cons rfl s
  have hcolon (s : List Char) : dropBlanks (':' :: s) = ':' :: s := dropBlanks_cons rfl s
  have hblank : readValue fuel (' ' :: s) = .ok (v, t) :=
    (readValue_blanks (b := [' ']) (by decide) fuel s).trans hv
  rw [nameChars, toList_stringText, readMembers.eq_def]
  simp only [List.cons_append, List.append_assoc, List.nil_append, hopen,
    string?_bodyChars hname, hcolon, hblank, String.ofList_toList]
  rfl

/-- The names of members are read back, and none of them occurs twice, nor among those read
before. -/
structure Named (read members : List (String × Json)) : Prop where
  /-- Names are read back. -/
  legible : ∀ e ∈ members, Unpaired (Text.points e.1.toList)
  /-- Names occur once. -/
  nodup : (Entries.keys (read ++ members)).Nodup

/-- After a member with a new name the others have new names still. -/
theorem Named.next {read members : List (String × Json)} {name : String} {v : Json}
    (h : Named read ((name, v) :: members)) :
    Unpaired (Text.points name.toList) ∧ Entries.put read name v = read ++ [(name, v)] ∧
      Named (read ++ [(name, v)]) members := by
  obtain ⟨hlegible, hnodup⟩ := h
  obtain ⟨hname, hlegible'⟩ := List.forall_mem_cons.1 hlegible
  have hkeys : Entries.keys (read ++ (name, v) :: members) =
      Entries.keys read ++ name :: Entries.keys members := List.map_append
  have hnew : name ∉ Entries.keys read := fun hmem ↦ by
    rw [hkeys] at hnodup
    exact (List.nodup_append.1 hnodup).2.2 name hmem name List.mem_cons_self rfl
  refine ⟨hname, Entries.put_of_not_mem_keys read v hnew, hlegible', ?_⟩
  rwa [List.append_assoc]

/-- Members are read back if each value is and the names are new. -/
theorem readMembers_chars {name : String} {v : Json} {ms read : List (String × Json)}
    (hnamed : Named read ((name, v) :: ms)) (hv : Reads v (chars l (level + 1) v))
    (hms : ∀ e ∈ ms, Reads e.2 (chars l (level + 1) e.2))
    {b : List Char} (hb : Blank b) {fuel : Nat} {rest : List Char}
    (hfuel : (chars l (level + 1) v ++ furtherMembers l level ms).length < fuel) :
    readMembers fuel (nameChars name ++ (chars l (level + 1) v ++
        (furtherMembers l level ms ++ (b ++ '\x7d' :: rest)))) read =
      .ok (read ++ (name, v) :: ms, rest) := by
  induction ms generalizing name v read fuel with
  | nil =>
    obtain ⟨fuel, rfl⟩ : ∃ k, fuel = k + 1 := ⟨fuel - 1, by omega⟩
    obtain ⟨hname, hput, -⟩ := hnamed.next
    rw [furtherMembers, List.append_nil] at hfuel
    have hends : Ends (b ++ '\x7d' :: rest) := ends_append hb (by simp) rest
    have hclose : dropBlanks ('\x7d' :: rest) = '\x7d' :: rest := dropBlanks_cons rfl rest
    rw [furtherMembers, List.nil_append,
      readMembers_member hname (hv.reads (Nat.le_of_lt_succ hfuel) hends), hput]
    simp only [readFurther, dropBlanks_append hb, hclose]
  | cons e es ih =>
    obtain ⟨name', w⟩ := e
    obtain ⟨fuel, rfl⟩ : ∃ k, fuel = k + 1 := ⟨fuel - 1, by omega⟩
    obtain ⟨hname, hput, hnamed'⟩ := hnamed.next
    obtain ⟨hw, hes⟩ := List.forall_mem_cons.1 hms
    obtain ⟨b', hb', hseparator⟩ := exists_separator l level
    -- the comma is worth a unit of fuel here too, and the name is not even needed
    rw [furtherMembers, hseparator] at hfuel ⊢
    simp only [List.length_append, List.length_cons, List.append_assoc, List.cons_append]
      at hfuel ⊢
    have hread (t : List Char) : readValue fuel (chars l (level + 1) v ++ ',' :: t) =
        .ok (v, ',' :: t) :=
      hv.reads (by omega) (ends_cons (by decide) t)
    have hcomma (t : List Char) : dropBlanks (',' :: t) = ',' :: t := dropBlanks_cons rfl t
    have hmore : readMembers fuel (nameChars name' ++ (chars l (level + 1) w ++
        (furtherMembers l level es ++ (b ++ '\x7d' :: rest)))) (read ++ [(name, v)]) =
        .ok (read ++ (name, v) :: (name', w) :: es, rest) := by
      have hfuel' : (chars l (level + 1) w ++ furtherMembers l level es).length < fuel := by
        rw [List.length_append]
        omega
      have hread' := ih hnamed' hw hes hfuel'
      rwa [List.append_assoc] at hread'
    rw [readMembers_member hname (hread _), hput]
    simp only [readFurther, hcomma, readMembers_blanks hb', hmore]

/-- An object is read by its members, unless it is closed at once. -/
theorem readValue_object {fuel : Nat} {b : List Char} (hb : Blank b) (t : List Char) :
    readValue (fuel + 1) ('\x7b' :: (b ++ '"' :: t)) =
      (readMembers fuel ('"' :: t) []).map fun r ↦ (object r.1, r.2) := by
  have hopen (s : List Char) : dropBlanks ('\x7b' :: s) = '\x7b' :: s := dropBlanks_cons rfl s
  have hmark (s : List Char) : dropBlanks ('"' :: s) = '"' :: s := dropBlanks_cons rfl s
  rw [readValue.eq_def]
  simp only [hopen, dropBlanks_append hb, hmark]
  rfl

/-- The text of an object with names and values that are read back is read back. -/
theorem reads_object {members : List (String × Json)} (hnamed : Named [] members)
    (h : ∀ e ∈ members, Reads e.2 (chars l (level + 1) e.2)) :
    Reads (object members) (chars l level (object members)) := by
  cases members with
  | nil =>
    rw [chars]
    refine ⟨⟨'\x7b', ['\x7d'], rfl, rfl, by decide, by decide⟩, fun {fuel rest} hfuel _ ↦ ?_⟩
    obtain ⟨fuel, rfl⟩ := exists_fuel hfuel
    rfl
  | cons e es =>
    obtain ⟨name, v⟩ := e
    obtain ⟨hv, hes⟩ := List.forall_mem_cons.1 h
    rw [chars]
    refine ⟨⟨'\x7b', _, rfl, rfl, by decide, by decide⟩, fun {fuel rest} hfuel _ ↦ ?_⟩
    obtain ⟨fuel, rfl⟩ := exists_fuel hfuel
    have hmembers : readMembers fuel (nameChars name ++ (chars l (level + 1) v ++
        (furtherMembers l level es ++ ((l.lineStart (level - 1)).toList ++ '\x7d' :: rest)))) [] =
        .ok ((name, v) :: es, rest) := by
      refine readMembers_chars hnamed hv hes (blank_lineStart l (level - 1)) ?_
      simp only [List.cons_append, List.length_cons, List.length_append] at hfuel ⊢
      omega
    rw [nameChars, toList_stringText] at hmembers ⊢
    simp only [List.cons_append, List.append_assoc, List.nil_append] at hmembers ⊢
    rw [readValue_object (blank_lineStart l level), hmembers]
    rfl

end Levels

/-! ### Values without parts -/

/-- A number or a word is read back. -/
def ReadsPlain (v : Json) : Prop :=
  readPlain (plainChars v) = .ok (v, [])

/-- The characters that no number and no word begins with, but something else may. -/
def marks : List Char :=
  [' ', '\t', '\n', '\r', '"', '[', ']', '\x7b', '\x7d']

/-- What begins with a mark is no number and no word. -/
theorem readPlain_of_mem_marks {c : Char} (h : c ∈ marks) (s : List Char) :
    readPlain (c :: s) = .error .malformed := by
  simp only [marks, List.mem_cons, List.not_mem_nil, or_false] at h
  rcases h with rfl | rfl | rfl | rfl | rfl | rfl | rfl | rfl | rfl <;> rfl

/-- A value that is read without looking at its marks is read. -/
theorem ReadsPlain.reads {v : Json} (h : ReadsPlain v) : Reads v (plainChars v) := by
  rw [ReadsPlain] at h
  generalize plainChars v = x at h
  -- a text that is read as a word or a number does not begin like something else
  rcases x with - | ⟨c, t⟩
  · cases h
  have hmarks : c ∉ marks := fun hmem ↦ by
    rw [readPlain_of_mem_marks hmem] at h
    cases h
  have hblank : isBlank c = false := by
    simp only [marks, List.mem_cons, not_or] at hmarks
    simp [isBlank, hmarks]
  have hne (d : Char) (hd : d ∈ marks) : c ≠ d := fun heq ↦ hmarks (heq ▸ hd)
  refine ⟨⟨c, t, rfl, hblank, hne _ (by decide), hne _ (by decide)⟩, ?_⟩
  intro fuel rest hfuel hrest
  obtain ⟨fuel, rfl⟩ := exists_fuel hfuel
  have hread : readPlain (c :: t ++ rest) = .ok (v, rest) := by
    rw [readPlain_append hrest, h]
    rfl
  rw [List.cons_append] at hread ⊢
  rw [readValue.eq_def]
  simp only [dropBlanks_cons hblank]
  split
  · next heq => exact absurd (List.head_eq_of_cons_eq heq) (hne _ (by decide))
  · next heq => exact absurd (List.head_eq_of_cons_eq heq) (hne _ (by decide))
  · next heq => exact absurd (List.head_eq_of_cons_eq heq) (hne _ (by decide))
  · exact hread

theorem readsPlain_null : ReadsPlain null :=
  rfl

theorem readsPlain_bool (b : Bool) : ReadsPlain (bool b) := by
  cases b <;> rfl

theorem readsPlain_int {i : Int} (h : (Nat.toDigits 10 i.natAbs).length ≤ Decimal.digitLimit) :
    ReadsPlain (int i) :=
  readPlain_toString h

/-- A string is read back if no two of its code points happen to make a pair. -/
theorem reads_string {s : String} (h : Unpaired (Text.points s.toList)) :
    Reads (string s) (plainChars (string s)) := by
  rw [plainChars, toList_stringText]
  refine ⟨⟨'"', bodyChars s, rfl, rfl, by decide, by decide⟩, fun {fuel rest} hfuel _ ↦ ?_⟩
  obtain ⟨fuel, rfl⟩ := exists_fuel hfuel
  have hopen (s : List Char) : dropBlanks ('"' :: s) = '"' :: s := dropBlanks_cons rfl s
  rw [readValue.eq_def]
  simp only [List.cons_append, hopen, string?_bodyChars h, String.ofList_toList]

/-! ### The whole value -/

/-- A value whose texts and numbers are read back from what is written of them, each by itself. None
of it can be spared: the reader refuses whole numbers that are longer, and it makes one character of
two halves that meet. -/
inductive Legible : Json → Prop
  /-- The null value. -/
  | null : Legible null
  /-- A truth value. -/
  | bool (b : Bool) : Legible (bool b)
  /-- A whole number that is not too long. -/
  | int {i : Int} (h : (Nat.toDigits 10 i.natAbs).length ≤ Decimal.digitLimit) : Legible (int i)
  /-- A floating-point number that is read back. -/
  | float {x : Float} (h : ReadsPlain (float x)) : Legible (float x)
  /-- A text in which no halves meet. -/
  | string {s : String} (h : Unpaired (Text.points s.toList)) : Legible (string s)
  /-- An array of such values. -/
  | array {items : List Json} (h : ∀ v ∈ items, Legible v) : Legible (array items)
  /-- An object of such values under names that are such texts. -/
  | object {members : List (String × Json)}
      (hnames : ∀ e ∈ members, Unpaired (Text.points e.1.toList))
      (h : ∀ e ∈ members, Legible e.2) : Legible (object members)

/-- What is legible can be written. -/
theorem Legible.unwritable?_eq_none {v : Json} (h : v.Legible) : v.unwritable? = none := by
  induction h with
  | null | bool | float | string => rfl
  | @int i h =>
    have hshort : ¬ Decimal.isTooLong i = true := by
      rwa [Decimal.isTooLong, decide_eq_true_iff, Nat.not_lt, Decimal.digitCount_eq]
    rw [unwritable?, if_neg hshort]
  | array _ ih => exact unwritableAmong?_eq_none_iff.2 ih
  | object _ _ ih => exact unwritableMember?_eq_none_iff.2 ih

/-- A legible and proper value is read back from what is written of it, on any level. -/
theorem Legible.reads {v : Json} (h : v.Legible) (hv : v.Proper) (l : Layout) (level : Nat) :
    Reads v (chars l level v) := by
  induction h generalizing level with
  | null => exact readsPlain_null.reads
  | bool b => exact (readsPlain_bool b).reads
  | int h => exact (readsPlain_int h).reads
  | float h => exact h.reads
  | string h => exact reads_string h
  | array h ih =>
    cases hv with
    | plain hplain => cases hplain
    | array hitems => exact reads_array fun v hv ↦ ih v hv (hitems v hv) (level + 1)
  | object hnames h ih =>
    cases hv with
    | plain hplain => cases hplain
    | object hkeys hmembers =>
      exact reads_object ⟨hnames, hkeys⟩ fun e he ↦ ih e he (hmembers e he) (level + 1)

/-- **What was written is read back.** -/
theorem read_text {v : Json} (hv : v.Proper) (h : v.Legible) (l : Layout) :
    read (text l v).1 = .ok v := by
  have hlength : (chars l 1 v).length ≤ 2 * (chars l 1 v).length + 2 := by omega
  have hread : readValue (2 * (chars l 1 v).length + 2) (chars l 1 v ++ []) = .ok (v, []) :=
    (h.reads hv l 1).reads hlength nofun
  rw [List.append_nil] at hread
  rw [text_eq_of_unwritable? h.unwritable?_eq_none, read, String.toList_ofList]
  simp only [hread]
  rfl

end Json

end TreePath
