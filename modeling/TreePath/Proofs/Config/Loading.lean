import TreePath.Proofs.Config.Saving

/-!
# What a loaded configuration answers

A configuration file is loaded by laying what it holds over the defaults. To whoever asks for a key
this is a look at two sections, one above the other: what the file has at the key, laid over what
the defaults have there; and what the defaults have there if the file has nothing. There is one
exception. If the file has, at some shorter key on the way, a value that is no object
(`Section.Blocks`), this value has taken the place of the whole section of the defaults, and nothing
is found beyond it (`get?_merge_key`).

Laying over is a recursion; what it comes to is said without it in `Json.LaidOver`, which relates
the two values and the outcome. There is exactly one outcome (`Json.laidOver_iff`).

Whether a file holds anything to be laid over the defaults is said in `FileStore.Gives`, case by
case. What the configuration was before it is loaded has no influence (`loaded_values`).
-/

namespace TreePath

/-! ### Values laid over others -/

open Section in
/-- A value laid over what is there comes to this. -/
inductive Json.LaidOver : Option Json → Json → Json → Prop
  /-- It takes the place of what is there, unless both are objects. -/
  | replaced {b : Option Json} {v : Json} (h : Replaces b v) : LaidOver b v v
  /-- Of two objects, the names of the lower come first, then the new ones of the upper. A value of
  the upper object is laid over what the lower has under its name; the others stay. -/
  | objects {inner members merged : Section}
    (hkeys : Entries.keys merged =
      Entries.keys inner ++ (Entries.keys members).filter fun name ↦ name ∉ Entries.keys inner)
    (hlaid : ∀ name v w, Entries.get? members name = some v → Entries.get? merged name = some w →
      LaidOver (Entries.get? inner name) v w)
    (hkept : ∀ name, Entries.get? members name = none →
      Entries.get? merged name = Entries.get? inner name) :
    LaidOver (some (object inner)) (object members) (object merged)

namespace Section

variable {base s : Section}

/-- What a value laid over another comes to is as the relation says. -/
theorem laidOver_layered {v : Json} (hv : v.Proper) (b : Option Json)
    (hb : ∀ w, b = some w → w.Proper) : Json.LaidOver b v (layered b v) := by
  refine values_induction (P := fun b v ↦ Json.LaidOver b v (layered b v)) ?_ ?_ hv b hb
  · intro b v _ hreplaces
    rw [layered_of_replaces hreplaces]
    exact .replaced hreplaces
  · intro inner members _ hmembers ih
    rw [layered_object]
    refine .objects (keys_merge hmembers.nodup_keys) (fun name v w hv hw ↦ ?_) fun name hnone ↦ ?_
    · rw [get?_merge_of_eq_some inner hmembers.nodup_keys hv] at hw
      rw [← Option.some.inj hw]
      exact ih name v hv
    · exact get?_merge_of_eq_none inner hmembers.nodup_keys hnone

/-- The relation leaves no choice. -/
theorem eq_layered_of_laidOver {v w : Json} (hv : v.Proper) (b : Option Json)
    (hb : ∀ w, b = some w → w.Proper) (h : Json.LaidOver b v w) : w = layered b v := by
  refine values_induction (P := fun b v ↦ ∀ w, Json.LaidOver b v w → w = layered b v) ?_ ?_ hv b hb
    w h
  · intro b v _ hreplaces w h
    cases h with
    | replaced _ => exact (layered_of_replaces hreplaces).symm
    | objects _ _ _ => exact absurd rfl (hreplaces _ _ rfl)
  · intro inner members hinner hmembers ih w h
    rw [layered_object]
    cases h with
    | replaced hreplaces => exact absurd rfl (hreplaces _ _ rfl)
    | @objects _ _ merged hkeys hlaid hkept =>
      have hsame : Entries.keys merged = Entries.keys (merge inner members) :=
        hkeys.trans (keys_merge hmembers.nodup_keys).symm
      have hnodup : (Entries.keys merged).Nodup :=
        hsame ▸ nodup_keys_merge hinner.nodup_keys members
      refine congrArg Json.object (Entries.eq_of_keys_eq hnodup hsame fun name ↦ ?_)
      cases hv : Entries.get? members name with
      | none => rw [hkept name hv, get?_merge_of_eq_none inner hmembers.nodup_keys hv]
      | some v =>
        have hget := get?_merge_of_eq_some inner hmembers.nodup_keys hv
        cases hw : Entries.get? merged name with
        | some w => rw [hget, ih name v hv w (hlaid name v w hv hw)]
        | none =>
          rw [Entries.get?_eq_none_iff, hsame, ← Entries.get?_eq_none_iff, hget] at hw
          cases hw

end Section

/-- A value is laid over another in exactly one way. -/
theorem Json.laidOver_iff {v w : Json} (hv : v.Proper) {b : Option Json}
    (hb : ∀ w, b = some w → w.Proper) : LaidOver b v w ↔ w = Section.layered b v :=
  ⟨Section.eq_layered_of_laidOver hv b hb, fun h ↦ h ▸ Section.laidOver_layered hv b hb⟩

namespace Section

variable {base s : Section}

/-! ### Keys in two sections -/

/-- What is found at a key of a proper section is proper. -/
theorem Proper.of_key (h : s.Proper) {k : Key} {v : Json} (hv : s.get? k = some v) : v.Proper := by
  obtain ⟨name, more⟩ := k
  rw [get?] at hv
  induction more generalizing s name with
  | nil => exact h.of_get? hv
  | cons next rest ih =>
    rw [follow?_cons] at hv
    exact ih (h.ofValue name) next hv

/-- At a shorter key, on the way to this one, there is a value that is no object. -/
def Blocks (s : Section) (k : Key) : Prop :=
  ∃ k' : Key, k'.parts <+: k.parts ∧ k' ≠ k ∧
    ∃ v, s.get? k' = some v ∧ ∀ members, v ≠ .object members

/-- A key of one part has nothing on its way. -/
theorem not_blocks_nil (s : Section) (name : String) : ¬ s.Blocks ⟨name, []⟩ := by
  rintro ⟨⟨name', more⟩, hprefix, hne, -⟩
  obtain ⟨rfl, hmore⟩ := List.cons_prefix_cons.1 hprefix
  obtain rfl := List.prefix_nil.1 hmore
  exact hne rfl

/-- A longer key is blocked at its first part, or after it. -/
theorem blocks_cons {name next : String} {rest : List String} :
    s.Blocks ⟨name, next :: rest⟩ ↔
      (∃ v, Entries.get? s name = some v ∧ ∀ members, v ≠ .object members) ∨
        (ofValue (Entries.get? s name)).Blocks ⟨next, rest⟩ := by
  constructor
  · rintro ⟨⟨name', more⟩, hprefix, hne, v, hget, hv⟩
    obtain ⟨rfl, hmore⟩ := List.cons_prefix_cons.1 hprefix
    cases more with
    | nil => exact Or.inl ⟨v, hget, hv⟩
    | cons next' rest' =>
      refine Or.inr ⟨⟨next', rest'⟩, hmore, ?_, v, ?_, hv⟩
      · rintro heq
        cases heq
        exact hne rfl
      · exact (follow?_cons s name' next' rest').symm.trans hget
  · rintro (⟨v, hget, hv⟩ | ⟨⟨next', rest'⟩, hprefix, hne, v, hget, hv⟩)
    · exact ⟨⟨name, []⟩, List.cons_prefix_cons.2 ⟨rfl, List.nil_prefix⟩, by simp, v, hget, hv⟩
    · refine ⟨⟨name, next' :: rest'⟩, List.cons_prefix_cons.2 ⟨rfl, hprefix⟩, ?_, v, ?_, hv⟩
      · intro heq
        cases heq
        exact hne rfl
      · exact (follow?_cons s name next' rest').trans hget

/-- Laid over nothing, a section is what it is. -/
theorem merge_nil_left (hs : s.Proper) : merge [] s = s := by
  have hkeys : Entries.keys (merge [] s) = Entries.keys s := by
    rw [keys_merge hs.nodup_keys, Entries.keys_nil, List.nil_append]
    exact List.filter_eq_self.2 fun name _ ↦ by simp
  refine Entries.eq_of_keys_eq (hkeys ▸ hs.nodup_keys) hkeys fun name ↦ ?_
  cases hv : Entries.get? s name with
  | none => exact get?_merge_of_eq_none [] hs.nodup_keys hv
  | some v =>
    have hreplaces : Replaces none v := fun _ _ hb ↦ absurd hb (by simp)
    rw [get?_merge_of_eq_some [] hs.nodup_keys hv, Entries.get?_nil, layered_of_replaces hreplaces]

/-- What is no section has no members. -/
theorem ofValue_of_ne_object {v : Json} (hv : ∀ members, v ≠ .object members) :
    ofValue (some v) = [] := by
  rw [ofValue]
  exact fun members h ↦ hv members (Option.some.inj h)

/-- Beyond a name whose upper value is no object there is nothing. -/
theorem ofValue_get?_merge_of_ne_object (base : Section) (hs : s.Proper) {name : String} {v : Json}
    (h : Entries.get? s name = some v) (hv : ∀ members, v ≠ .object members) :
    ofValue (Entries.get? (merge base s) name) = [] := by
  have hreplaces : Replaces (Entries.get? base name) v := fun _ members _ ↦ hv members
  rw [get?_merge_of_eq_some base hs.nodup_keys h, layered_of_replaces hreplaces,
    ofValue_of_ne_object hv]

/-- Beyond any other name there is what is beyond it in both sections, one laid over the other. -/
theorem ofValue_get?_merge (base : Section) (hs : s.Proper) {name : String}
    (h : ∀ v, Entries.get? s name = some v → ∃ members, v = .object members) :
    ofValue (Entries.get? (merge base s) name) =
      merge (ofValue (Entries.get? base name)) (ofValue (Entries.get? s name)) := by
  cases hv : Entries.get? s name with
  | none =>
    rw [get?_merge_of_eq_none base hs.nodup_keys hv]
    rfl
  | some v =>
    obtain ⟨members, rfl⟩ := h v hv
    rw [get?_merge_of_eq_some base hs.nodup_keys hv]
    rcases replaces_or_objects (Entries.get? base name) (.object members) with
      hreplaces | ⟨inner, members', hb, heq⟩
    · have hbase : ofValue (Entries.get? base name) = [] := by
        rw [ofValue]
        exact fun inner hb ↦ hreplaces inner members hb rfl
      rw [layered_of_replaces hreplaces, hbase]
      exact (merge_nil_left (hs.of_get? hv)).symm
    · rw [hb, layered_object]
      rfl

/-- **What a section over another has at a key**: its own value, laid over the one below; otherwise
the value below, unless a value that is no object stands in the way. -/
theorem get?_merge_key (base : Section) (hs : s.Proper) (k : Key) :
    (∀ v, s.get? k = some v → (merge base s).get? k = some (layered (base.get? k) v)) ∧
      (s.Blocks k → (merge base s).get? k = none) ∧
      (s.get? k = none → ¬ s.Blocks k → (merge base s).get? k = base.get? k) := by
  obtain ⟨name, more⟩ := k
  simp only [get?]
  induction more generalizing base s name with
  | nil =>
    exact ⟨fun v hv ↦ get?_merge_of_eq_some base hs.nodup_keys hv,
      fun hblocks ↦ absurd hblocks (not_blocks_nil s name),
      fun hnone _ ↦ get?_merge_of_eq_none base hs.nodup_keys hnone⟩
  | cons next rest ih =>
    rw [blocks_cons, follow?_cons, follow?_cons, follow?_cons]
    by_cases hplain : ∃ v, Entries.get? s name = some v ∧ ∀ members, v ≠ .object members
    · obtain ⟨v, hget, hv⟩ := hplain
      rw [ofValue_get?_merge_of_ne_object base hs hget hv, hget, ofValue_of_ne_object hv,
        follow?_nil]
      exact ⟨by simp, fun _ ↦ rfl, fun _ hnot ↦ absurd (Or.inl ⟨v, rfl, hv⟩) hnot⟩
    · have hobject (v : Json) (hget : Entries.get? s name = some v) :
          ∃ members, v = .object members := by
        by_contra hnone
        exact hplain ⟨v, hget, fun members heq ↦ hnone ⟨members, heq⟩⟩
      rw [ofValue_get?_merge base hs hobject, or_iff_right hplain]
      exact ih (ofValue (Entries.get? base name)) (hs.ofValue name) next

end Section

/-! ### What a file gives -/

/-- What the file at a path gives to lay over the defaults: the members of an object, or nothing. -/
inductive FileStore.Gives (s : FileStore) (path : String) : Option Section → Prop
  /-- There is no file. -/
  | missing (hholds : s.holds path = false) : Gives s path none
  /-- It cannot be read. -/
  | unreadable {e : FileError} (hholds : s.holds path = true) (hread : s.read path = .error e) :
    Gives s path none
  /-- It holds no text. -/
  | undecodable {bytes : ByteArray} (hholds : s.holds path = true) (hread : s.read path = .ok bytes)
    (htext : Text.Encoding.utf8.decode? bytes.toList = none) : Gives s path none
  /-- Its text spells no value. -/
  | malformed {bytes : ByteArray} {text : List Char} {e : Json.ReadError}
    (hholds : s.holds path = true) (hread : s.read path = .ok bytes)
    (htext : Text.Encoding.utf8.decode? bytes.toList = some text)
    (hvalue : Json.read (String.ofList text) = .error e) : Gives s path none
  /-- Its text spells a value that is no object. -/
  | notAnObject {bytes : ByteArray} {text : List Char} {v : Json} (hholds : s.holds path = true)
    (hread : s.read path = .ok bytes) (htext : Text.Encoding.utf8.decode? bytes.toList = some text)
    (hvalue : Json.read (String.ofList text) = .ok v) (hv : ∀ members, v ≠ .object members) :
    Gives s path none
  /-- Its text spells an object. -/
  | object {bytes : ByteArray} {text : List Char} {members : Section} (hholds : s.holds path = true)
    (hread : s.read path = .ok bytes) (htext : Text.Encoding.utf8.decode? bytes.toList = some text)
    (hvalue : Json.read (String.ofList text) = .ok (.object members)) : Gives s path (some members)

namespace Config

variable {s : FileStore} {path : String}

/-- What a file gives is what is made of it when a configuration is loaded. -/
theorem gives_iff {loaded : Option Section} :
    s.Gives path loaded ↔
      loaded = if s.holds path then (Section.ofFile s path).toOption else none := by
  constructor
  · intro h
    cases h with
    | missing hholds => rw [if_neg (by simp [hholds])]
    | unreadable hholds hread => rw [if_pos hholds, Section.ofFile, hread]; rfl
    | undecodable hholds hread htext =>
      simp only [if_pos hholds, Section.ofFile, hread, Section.ofBytes, htext]
      rfl
    | malformed hholds hread htext hvalue =>
      simp only [if_pos hholds, Section.ofFile, hread, Section.ofBytes, htext, hvalue]
      rfl
    | @notAnObject _ _ v hholds hread htext hvalue hv =>
      simp only [if_pos hholds, Section.ofFile, hread, Section.ofBytes, htext, hvalue]
      cases v with
      | object members => exact absurd rfl (hv members)
      | _ => rfl
    | object hholds hread htext hvalue =>
      simp only [if_pos hholds, Section.ofFile, hread, Section.ofBytes, htext, hvalue]
      rfl
  · rintro rfl
    cases hholds : s.holds path with
    | false => exact .missing hholds
    | true =>
      rw [if_pos rfl, Section.ofFile]
      cases hread : s.read path with
      | error e => exact .unreadable hholds hread
      | ok bytes =>
        simp only [Section.ofBytes]
        cases htext : Text.Encoding.utf8.decode? bytes.toList with
        | none => exact .undecodable hholds hread htext
        | some text =>
          cases hvalue : Json.read (String.ofList text) with
          | error e =>
            simp only [hvalue]
            exact .malformed hholds hread htext hvalue
          | ok v =>
            simp only [hvalue]
            cases v with
            | object members => exact .object hholds hread htext hvalue
            | _ => exact .notAnObject hholds hread htext hvalue (by simp)

/-- What is given is laid over the defaults. -/
theorem values_load {loaded : Option Section} (h : s.Gives path loaded) :
    (load s path).1.values = loaded.elim defaults (Section.merge defaults) := by
  rw [gives_iff] at h
  rw [h, load]
  split
  · cases Section.ofFile s path with
    | error e => rfl
    | ok members => rfl
  · rfl

/-- What a file gives is proper, since the reader repeats no name. -/
theorem proper_of_gives {members : Section} (h : s.Gives path (some members)) :
    members.Proper := by
  cases h with
  | object _ _ _ hvalue => exact Json.proper_of_read hvalue

/-- A file with the text of a section gives it. -/
theorem gives_of_holds {members : Section} (hproper : members.Proper) (hlegible : members.Legible)
    {address : List String}
    (h : s.Holds path address (Json.text .indented (.object members)).1.toUTF8) :
    s.Gives path (some members) := by
  have htext := Text.decode?_utf8 (isAscii_text members)
  refine .object h.holds_eq_true h.read_eq htext ?_
  rw [String.ofList_toList]
  exact Json.read_text hproper hlegible .indented

/-- **What a configuration answers after it was loaded.** The file gives it a section or nothing.
Nothing leaves the defaults alone. A section answers at each key where it has a value: with this
value, laid over that of the defaults. Where it has none the defaults answer, or the caller's own
value if they have none either; but the caller's own value is answered in any case if the section
has a value that is no object on the way to the key. What the configuration held before, or
reported, is of no influence: the file decides. -/
theorem answers_after_loading (s : FileStore) (c : Config) :
    (∃! loaded, s.Gives c.path loaded) ∧
      (s.Gives c.path none → (c.reload s).1.values = defaults) ∧
      (∀ members, s.Gives c.path (some members) → ∀ (key : String) (d : Json),
        (∀ v, members.get? (.ofText key) = some v →
          Json.LaidOver (Section.get? defaults (.ofText key)) v ((c.reload s).1.get key d)) ∧
        (members.get? (.ofText key) = none →
          (members.Blocks (.ofText key) → (c.reload s).1.get key d = d) ∧
          (¬ members.Blocks (.ofText key) →
            (c.reload s).1.get key d = (Section.get? defaults (.ofText key)).getD d))) ∧
      ∀ c' : Config, c'.path = c.path → c'.reload s = c.reload s := by
  refine ⟨⟨_, gives_iff.2 rfl, fun loaded h ↦ gives_iff.1 h⟩, values_load, fun members h key d ↦ ?_,
    fun c' hpath ↦ by rw [reload, reload, hpath]⟩
  have hproper := proper_of_gives h
  obtain ⟨hvalue, hblocked, hbelow⟩ := Section.get?_merge_key defaults hproper (.ofText key)
  have hget : (c.reload s).1.get key d =
      ((Section.merge defaults members).get? (.ofText key)).getD d := by
    rw [get, get?, reload, values_load h]
    rfl
  rw [hget]
  refine ⟨fun v hv ↦ ?_, fun hnone ↦ ⟨fun h ↦ ?_, fun h ↦ ?_⟩⟩
  · rw [hvalue v hv, Option.getD_some]
    exact Section.laidOver_layered (hproper.of_key hv) _ fun w hw ↦ proper_defaults.of_key hw
  · rw [hblocked h, Option.getD_none]
  · rw [hbelow hnone h]

/-- A strategy for the engine, and null in the place of the whole section of the parser. -/
def sampleMembers : Section :=
  [("engine", .object [("strategy", .string "iterative")]), ("parser", .null)]

/-- A store with one file, which holds the text of the sample. -/
def sampleFile : FileStore :=
  FileStore.empty.putAt ["c.json"] (.file (Json.text .indented (.object sampleMembers)).1.toUTF8)

/-- The file of the sample answers with its strategy among the other settings of the engine, with
the default level of the console, and with null for the parser. Beyond that null there is nothing,
though the defaults have a value there. -/
theorem answers_after_loading_sample :
    let c : Config := ⟨"c.json", [("engine", .null)]⟩
    sampleFile.Gives c.path (some sampleMembers) ∧ sampleMembers.Blocks (.ofText "parser.backend") ∧
      (c.reload sampleFile).1.get "engine" .null =
        .object [("strategy", .string "iterative"), ("log_timing", .bool false)] ∧
      (c.reload sampleFile).1.get "logging.console_level" .null = .string "INFO" ∧
      (c.reload sampleFile).1.get "parser" (.int 3) = .null ∧
      (c.reload sampleFile).1.get "parser.backend" (.int 3) = .int 3 := by
  intro c
  have hengine : Section.Proper [("strategy", .string "iterative")] :=
    .object (by decide) (List.forall_mem_singleton.2 (.plain rfl))
  have hproper : sampleMembers.Proper := by
    refine Section.proper_iff.2 ⟨by decide, List.forall_mem_cons.2 ⟨hengine, ?_⟩⟩
    exact List.forall_mem_singleton.2 (.plain rfl)
  have hlegible : sampleMembers.Legible := by
    refine Section.legible_of_isAscii (by decide) (List.forall_mem_cons.2
      ⟨Section.legible_of_isAscii (by decide) ?_, List.forall_mem_singleton.2 .null⟩)
    exact List.forall_mem_singleton.2 (.string (Json.unpaired_of_isAscii (by decide)))
  have hresolve : FileStore.empty.resolve "c.json" = .ok ["c.json"] := rfl
  have hgives : sampleFile.Gives c.path (some sampleMembers) :=
    gives_of_holds hproper hlegible (FileStore.holds_putAt hresolve (by decide) nofun _)
  have hblocks : sampleMembers.Blocks (.ofText "parser.backend") :=
    ⟨.ofText "parser", by decide, by decide, .null, rfl, nofun⟩
  have hfree : ¬ sampleMembers.Blocks (.ofText "logging.console_level") := by
    have hkey : Key.ofText "logging.console_level" = ⟨"logging", ["console_level"]⟩ := rfl
    rw [hkey, Section.blocks_cons]
    rintro (⟨v, hv, -⟩ | hblocks)
    · cases hv
    · exact Section.not_blocks_nil _ _ hblocks
  obtain ⟨-, -, hanswers, -⟩ := answers_after_loading sampleFile c
  have hlaid := (hanswers _ hgives "engine" .null).1 _ rfl
  have hnull := (hanswers _ hgives "parser" (.int 3)).1 _ rfl
  refine ⟨hgives, hblocks, ?_, ((hanswers _ hgives "logging.console_level" .null).2 rfl).2 hfree,
    ?_, ((hanswers _ hgives "parser.backend" (.int 3)).2 rfl).1 hblocks⟩
  · exact (Json.laidOver_iff hengine fun w hw ↦ proper_defaults.of_key hw).1 hlaid
  · exact (Json.laidOver_iff (.plain rfl) fun w hw ↦ proper_defaults.of_key hw).1 hnull

end Config

end TreePath
