import TreePath.Config.Basic
import TreePath.Proofs.Config.Cells
import TreePath.Proofs.Config.Layering
import TreePath.Proofs.FileStore.Opening
import TreePath.Proofs.Json.Interrupted

/-!
# Saving and opening again

A saved configuration is read with the defaults below it, so what comes back is not always what was
saved: a default that had been removed is there again. What comes back is the saved configuration
laid over the defaults (`Config.settled`). The two are equal as mappings exactly if the saved one
lacks no name of the defaults, at any depth, and after one round nothing changes any more
(`settles_at_once`).

The proof has three parts that do not know of one another: a proper value that is legible is read
back from what is written of it (`Json.read_text`), a file that was opened can be read and opened
again (`FileStore.Holds`), and to lay a section over another twice is to lay it over once
(`Section.merge_merge_self`).

That a value is legible is a condition on its texts and numbers: in no text may the first half of a
pair stand right before the second, no whole number may have too many digits, and every
floating-point number has to be read back from what is written of it. It is stated by cases on the
value and holds of the defaults. Since laying over makes no new texts or numbers, it holds of
whatever is laid over them (`Legible.merge`).
-/

namespace TreePath

/-! ### Sections that are read back -/

namespace Section

variable {base s : Section}

/-- A section that is read back from what is written of it. -/
def Legible (s : Section) : Prop :=
  (Json.object s).Legible

/-- A section is legible if its names and its values are. -/
theorem legible_iff : s.Legible ↔ (∀ e ∈ s, Json.Unpaired (Text.points e.1.toList)) ∧
    ∀ e ∈ s, e.2.Legible := by
  constructor
  · intro h
    cases h with
    | object hnames h => exact ⟨hnames, h⟩
  · rintro ⟨hnames, h⟩
    exact .object hnames h

/-- Members under ASCII names are read back if their values are. -/
theorem legible_of_isAscii {s : Section} (hnames : ∀ e ∈ s, Text.IsAscii e.1.toList)
    (h : ∀ e ∈ s, e.2.Legible) : s.Legible :=
  .object (fun e he ↦ Json.unpaired_of_isAscii (hnames e he)) h

/-- A legible value laid over another one is legible. -/
theorem legible_layered {v : Json} (hv : v.Proper) (b : Option Json)
    (hb : ∀ w, b = some w → w.Proper) (hlegible : v.Legible)
    (hb' : ∀ w, b = some w → w.Legible) : (layered b v).Legible := by
  refine layered_induction (P := fun b v ↦ v.Legible → (∀ w, b = some w → w.Legible) →
    (layered b v).Legible) ?_ ?_ hv b hb hlegible hb'
  · intro b v _ heq h _
    rwa [heq]
  · intro inner members hinner hmembers ih h hb
    obtain ⟨hinames, hivalues⟩ := legible_iff.1 (hb _ rfl)
    obtain ⟨hmnames, hmvalues⟩ := legible_iff.1 h
    have hmem {e} (he : e ∈ merge inner members) :=
      of_mem_merge hinner.nodup_keys hmembers.nodup_keys he
    rw [layered_object]
    refine legible_iff.2 ⟨fun e he ↦ ?_, fun e he ↦ ?_⟩
    · obtain hbelow | ⟨v, hv, -⟩ := hmem he
      · exact hinames e hbelow
      · exact hmnames (e.1, v) (Entries.mem_of_get?_eq_some hv)
    · obtain hbelow | ⟨v, hv, heq⟩ := hmem he
      · exact hivalues e hbelow
      · rw [heq]
        refine ih e.1 v hv (hmvalues _ (Entries.mem_of_get?_eq_some hv)) fun w hw ↦ ?_
        exact hivalues _ (Entries.mem_of_get?_eq_some hw)

/-- So is a section merged with another. -/
theorem Legible.merge (hbase : base.Legible) (hbase' : base.Proper) (h : s.Legible)
    (h' : s.Proper) : (Section.merge base s).Legible := by
  have hlayered := legible_layered h' (some (.object base))
    (fun w hw ↦ Option.some.inj hw ▸ hbase') h (fun w hw ↦ Option.some.inj hw ▸ hbase)
  rwa [layered_object] at hlayered

end Section

namespace Config

/-- The defaults repeat no name. -/
theorem proper_defaults : Section.Proper defaults := by
  have hobject (members : Section) (hkeys : (Entries.keys members).Nodup)
      (h : ∀ e ∈ members, e.2.isPlain = true) : (Json.object members).Proper :=
    .object hkeys fun e he ↦ .plain (h e he)
  refine Section.proper_iff.2 ⟨by decide, ?_⟩
  simp only [defaults, List.forall_mem_cons]
  exact ⟨hobject _ (by decide) (by decide), hobject _ (by decide) (by decide),
    hobject _ (by decide) (by decide), nofun⟩

/-- The defaults can be written and are read back. -/
theorem legible_defaults : Section.Legible defaults := by
  have htext {s : String} (h : Text.IsAscii s.toList) : (Json.string s).Legible :=
    .string (Json.unpaired_of_isAscii h)
  refine Section.legible_of_isAscii (by decide) ?_
  simp only [defaults, List.forall_mem_cons]
  refine ⟨Section.legible_of_isAscii (by decide) ?_, Section.legible_of_isAscii (by decide) ?_,
    Section.legible_of_isAscii (by decide) ?_, nofun⟩
  · simp only [List.forall_mem_cons]
    exact ⟨htext (by decide), htext (by decide), .null, .bool _, nofun⟩
  · simp only [List.forall_mem_cons]
    exact ⟨htext (by decide), .bool _, nofun⟩
  · simp only [List.forall_mem_cons]
    exact ⟨.null, .bool _, nofun⟩

/-! ### What can be done to a configuration -/

/-- What can be done to a configuration after it was made. -/
inductive Change where
  /-- Loads it again from its file, as a store has it by then. -/
  | load (s : FileStore)
  /-- Assigns a value that JSON expresses. -/
  | set (key : String) (value : Json) (h : value.Proper)
  /-- Removes the value at a key, if there is one. -/
  | remove (key : String)

/-- A configuration after a change. -/
def Change.apply (c : Config) : Change → Config
  | load s => (c.reload s).1
  | set key value _ => c.set key value
  | remove key => (c.remove key).2

/-- A configuration after changes, made in order. -/
def after (c : Config) (changes : List Change) : Config :=
  changes.foldl Change.apply c

/-- What a file spells is a proper section. -/
theorem proper_ofBytes {bytes : ByteArray} {members : Section}
    (h : Section.ofBytes bytes = .ok members) : members.Proper := by
  rw [Section.ofBytes] at h
  split at h
  · cases h
  · split at h
    · cases h
    · next hread =>
      cases h
      exact Json.proper_of_read hread
    · cases h

/-- A configuration is proper when it has been loaded, be it from the file or from the defaults. -/
theorem proper_load (s : FileStore) (path : String) : Section.Proper (load s path).1.values := by
  rw [load]
  split
  · split
    · next members hmembers =>
      refine proper_defaults.merge ?_
      rw [Section.ofFile] at hmembers
      split at hmembers
      · exact proper_ofBytes hmembers
      · cases hmembers
    · exact proper_defaults
  · exact proper_defaults

/-- No change makes a configuration improper. -/
theorem proper_apply {c : Config} (h : Section.Proper c.values) (change : Change) :
    Section.Proper (change.apply c).values := by
  cases change with
  | load s => exact proper_load s c.path
  | set key value hvalue => exact h.assign _ _ hvalue
  | remove key =>
    obtain ⟨left, hdrop, -, hremove⟩ | ⟨-, hremove⟩ := c.remove_cases key
    · rw [Change.apply, hremove]
      exact h.cut? hdrop
    · rw [Change.apply, hremove]
      exact h

/-- Nor do any number of changes. -/
theorem proper_after {c : Config} (h : Section.Proper c.values) (changes : List Change) :
    Section.Proper (c.after changes).values := by
  induction changes generalizing c with
  | nil => exact h
  | cons change changes ih => exact ih (proper_apply h change)

/-! ### One round -/

/-- The configuration laid over the defaults, as a file that holds it is loaded. -/
def settled (c : Config) : Config :=
  { c with values := Section.merge defaults c.values }

/-- Saved and opened again, one configuration becomes another: wherever its file can be opened to
write to, saving succeeds, a new configuration of the same path is that other one, and the file can
be opened again. -/
def Reopens (c c' : Config) : Prop :=
  ∀ s s₁ address, (FileStore.openWithin c.path).run s = .ok address s₁ →
    ∃ s', c.save.run s = .ok () s' ∧ (∀ e, (new s' e (some c.path)).1 = c') ∧
      ∃ s₂, (FileStore.openWithin c.path).run s' = .ok address s₂

/-- A configuration that is made for a path is what is loaded from there. -/
theorem new_some {s : FileStore} {path : String} (hpath : path ≠ "") (e : Environment) :
    (new s e (some path)).1 = (load s path).1 := by
  simp only [new, Option.getD_some, if_neg hpath]

section Contents

variable {members : Section}

/-- What is saved is ASCII, so that it is written to the file byte for character. -/
theorem isAscii_text (members : Section) :
    Text.IsAscii (Json.text .indented (.object members)).1.toList :=
  (Json.text_object .indented members).1

/-- Every part of a legible section can be written. -/
theorem unwritableMember?_eq_none (hlegible : members.Legible) :
    Json.unwritableMember? members = none :=
  Json.Legible.unwritable?_eq_none hlegible

/-- A file that holds the text of a section is loaded as the section over the defaults. -/
theorem load_of_holds (hproper : members.Proper) {s : FileStore} {path : String}
    {address : List String} (hlegible : members.Legible)
    (h : s.Holds path address (Json.text .indented (.object members)).1.toUTF8) :
    (load s path).1 = ⟨path, Section.merge defaults members⟩ := by
  have hread := Json.read_text hproper hlegible .indented
  have hfile : Section.ofFile s path = .ok members := by
    rw [Section.ofFile, h.read_eq]
    simp only [Section.ofBytes, Text.decode?_utf8 (isAscii_text members), String.ofList_toList,
      hread]
  simp only [load, h.holds_eq_true, if_true, hfile]

/-- What can be written of a section is what a file that was opened holds then. Writing ends well
unless some part of the section cannot be written. -/
theorem run_writeTo {s : FileStore} {path : String} {address : List String}
    (h : s.Holds path address .empty) (members : Section) :
    (writeTo address (.object members)).run s =
      let s' := s.putAt address (.file (Json.text .indented (.object members)).1.toUTF8)
      match Json.unwritableMember? members with
      | none => .ok () s'
      | some e => .error (.unwritable e) s' := by
  obtain ⟨hascii, hfailure, -⟩ := Json.text_object .indented members
  have hwritten : s.append address (Json.text .indented (.object members)).1 =
      s.putAt address (.file (Json.text .indented (.object members)).1.toUTF8) := by
    rw [FileStore.append, h.place, Text.utf8?_of_isAscii hascii]
    simp only [ByteArray.empty_append]
  rw [← hwritten, writeTo]
  generalize Json.text .indented (.object members) = text at hfailure
  obtain ⟨written, failure⟩ := text
  subst hfailure
  cases Json.unwritableMember? members with
  | none => rfl
  | some e => rfl

end Contents

/-- A file is opened to be saved to as any other is, only that the complaints about it are passed on
as those of saving. -/
theorem save_eq (c : Config) :
    c.save = (EStateM.adaptExcept SaveError.file (FileStore.openWithin c.path) >>=
      fun address ↦ writeTo address (.object c.values)) :=
  rfl

/-- What can be written of a configuration is what its file holds after saving. -/
theorem run_save_eq {c : Config} {s s₁ : FileStore} {address : List String}
    (hopen : (FileStore.openWithin c.path).run s = .ok address s₁) :
    c.save.run s =
      let s' := s₁.putAt address (.file (Json.text .indented (.object c.values)).1.toUTF8)
      match Json.unwritableMember? c.values with
      | none => .ok () s'
      | some e => .error (.unwritable e) s' := by
  have hrun : FileStore.openWithin c.path s = .ok address s₁ := hopen
  rw [save_eq, EStateM.run_bind, EStateM.run, EStateM.adaptExcept, hrun]
  exact run_writeTo (FileStore.holds_of_openWithin hopen) c.values

/-- Saving a legible configuration puts its text into the file. -/
theorem run_save {c : Config} (hlegible : Section.Legible c.values) {s s₁ : FileStore}
    {address : List String} (hopen : (FileStore.openWithin c.path).run s = .ok address s₁) :
    c.save.run s = .ok () (s₁.putAt address
      (.file (Json.text .indented (.object c.values)).1.toUTF8)) := by
  rw [run_save_eq hopen, unwritableMember?_eq_none hlegible]

/-- Saved and opened again, a configuration is laid over the defaults. -/
theorem reopens_settled {c : Config} (hproper : Section.Proper c.values)
    (hlegible : Section.Legible c.values) : c.Reopens c.settled := by
  intro s s₁ address hopen
  have hempty := FileStore.holds_of_openWithin hopen
  have hpath : c.path ≠ "" := (FileStore.resolve_eq_ok_iff.1 hempty.resolves).1.nonempty
  have hsaved := hempty.putAt (Json.text .indented (.object c.values)).1.toUTF8
  refine ⟨_, run_save hlegible hopen, fun e ↦ ?_, _, hsaved.run_openWithin⟩
  rw [new_some hpath, load_of_holds hproper hlegible hsaved]
  rfl

/-- **A configuration settles at once.** Whatever was loaded, assigned and removed before, saving a
configuration and opening it again gives the configuration laid over the defaults. As a mapping that
is the configuration itself exactly if it still has all names of the defaults, at every depth; and
to save what came back and to open it once more changes nothing. -/
theorem settles_at_once {s₀ : FileStore} {e : Environment} {path : Option String}
    {changes : List Change} {c : Config} (hc : c = (new s₀ e path).1.after changes)
    (hlegible : Section.Legible c.values) :
    c.Reopens c.settled ∧
      (Section.Alike c.settled.values c.values ↔ Section.Keeps defaults c.values) ∧
      c.settled.Reopens c.settled := by
  have hproper : Section.Proper c.values := hc ▸ proper_after (proper_load s₀ _) changes
  have hproper' : Section.Proper c.settled.values := proper_defaults.merge hproper
  have hlegible' : Section.Legible c.settled.values :=
    legible_defaults.merge proper_defaults hlegible hproper
  -- the second round is the first round of what came back, which the defaults do not change
  have hsame : c.settled.settled = c.settled :=
    congrArg (Config.mk c.path) (Section.merge_merge_self proper_defaults hproper)
  refine ⟨reopens_settled hproper hlegible, Section.alike_merge_iff proper_defaults hproper, ?_⟩
  have hagain := reopens_settled hproper' hlegible'
  rwa [hsame] at hagain

/-- A configuration that has lost most of its defaults and gained a number. -/
def sampleSaved : Config :=
  ⟨"c.json", [("parser", .object [("keep_whitespace", .bool false)]), ("depth", .int 3)]⟩

/-- The sample can be made, and its file can be opened in a store with nothing in it. Saved and
opened again, it has its defaults back, which makes it another one; that one stays as it is. -/
theorem settles_at_once_sample :
    sampleSaved = (new .empty ⟨"/home/u", none⟩ (some "c.json")).1.after
        [.remove "logging", .remove "engine", .remove "parser.backend",
          .set "depth" (.int 3) (.plain rfl)] ∧
      Section.Legible sampleSaved.values ∧
      (∃ s₁, (FileStore.openWithin sampleSaved.path).run .empty = .ok ["c.json"] s₁) ∧
      sampleSaved.Reopens sampleSaved.settled ∧
      ¬ Section.Alike sampleSaved.settled.values sampleSaved.values ∧
      sampleSaved.settled.Reopens sampleSaved.settled := by
  have hmade : sampleSaved = (new .empty ⟨"/home/u", none⟩ (some "c.json")).1.after
      [.remove "logging", .remove "engine", .remove "parser.backend",
        .set "depth" (.int 3) (.plain rfl)] :=
    rfl
  have hlegible : Section.Legible sampleSaved.values := by
    refine Section.legible_of_isAscii (by decide) ?_
    simp only [sampleSaved, List.forall_mem_cons]
    refine ⟨Section.legible_of_isAscii (by decide) ?_, .int (by decide), nofun⟩
    simp only [List.forall_mem_cons]
    exact ⟨.bool _, nofun⟩
  have hlost : ¬ Section.Keeps defaults sampleSaved.values := fun h ↦
    absurd (h [] defaults sampleSaved.values rfl rfl "logging" (by decide)) (by decide)
  obtain ⟨hreopens, halike, hagain⟩ := settles_at_once hmade hlegible
  exact ⟨hmade, hlegible, ⟨_, rfl⟩, hreopens, fun h ↦ hlost (halike.1 h), hagain⟩

end Config

end TreePath
