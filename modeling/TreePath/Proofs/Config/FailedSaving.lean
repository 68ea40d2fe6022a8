import TreePath.Proofs.Config.Saving

/-!
# Saving that fails

Saving opens the file before it knows whether the configuration can be written, and to open a file
is to empty it. So there are three ways in which saving can end (`Config.Saves`). The file cannot be
opened, and then there was none; it is written to the end; or some value in the configuration cannot
be written, since it is of a class that JSON does not have or a number with too many digits, and
then what the file held before is lost (`Config.not_kept_by_failed_save`). In its place there is
what was written before that value, which no reader takes for a configuration, so that the defaults
are all that is loaded next (`Config.after_saving`).

A value of another class is taken to be one that can be copied, as a set can. Saving copies the
configuration before it opens the file, and a value that cannot be copied, such as a lock, would be
found out there.
-/

namespace TreePath

namespace Config

/-- How saving a configuration ends. -/
inductive Saves (c : Config) (s : FileStore) : Prop
  /-- The file cannot be opened. There was none. -/
  | blocked {e : FileError} {s' : FileStore} (hrun : c.save.run s = .error (.file e) s')
      (hnone : ∀ address bytes, ¬ s.Holds c.path address bytes)
  /-- The file, at its old address if it had one, holds all of the configuration. -/
  | complete {s' : FileStore} {address : List String} (hrun : c.save.run s = .ok () s')
      (hall : Json.unwritableMember? c.values = none)
      (hsame : ∀ address' bytes, s.Holds c.path address' bytes → address' = address)
      (hfile : s'.Holds c.path address (Json.text .indented (.object c.values)).1.toUTF8)
  /-- The file, at its old address if it had one, holds what comes before a value that cannot be
  written, and the defaults are loaded from it. -/
  | cutShort {e : Json.Unwritable} {s' : FileStore} {address : List String}
      (hrun : c.save.run s = .error (.unwritable e) s')
      (hfirst : Json.unwritableMember? c.values = some e)
      (hsame : ∀ address' bytes, s.Holds c.path address' bytes → address' = address)
      (hfile : s'.Holds c.path address (Json.text .indented (.object c.values)).1.toUTF8)
      (hload : (load s' c.path).1 = ⟨c.path, defaults⟩)

/-- A file that holds an open text is loaded as the defaults. -/
theorem load_of_open {s : FileStore} {path : String} {address : List String} {text : String}
    (h : s.Holds path address text.toUTF8) (hascii : Text.IsAscii text.toList)
    (hopen : Json.Open text) : (load s path).1 = ⟨path, defaults⟩ := by
  have hfile : ∃ e, Section.ofFile s path = .error e := by
    rw [Section.ofFile, h.read_eq]
    simp only [Section.ofBytes, Text.decode?_utf8 hascii, String.ofList_toList]
    cases hread : Json.read text with
    | error e => exact ⟨_, rfl⟩
    | ok v => exact absurd hread (Json.read_ne_ok_of_open hopen v)
  obtain ⟨e, hfile⟩ := hfile
  simp only [load, h.holds_eq_true, if_true, hfile]

/-- A file that holds what can be written of a section, where that is not all of it, is loaded as
the defaults. -/
theorem load_of_cut {members : Section} {e : Json.Unwritable}
    (hfirst : Json.unwritableMember? members = some e) {s : FileStore} {path : String}
    {address : List String}
    (h : s.Holds path address (Json.text .indented (.object members)).1.toUTF8) :
    (load s path).1 = ⟨path, defaults⟩ := by
  obtain ⟨hascii, -, hcut⟩ := Json.text_object .indented members
  refine load_of_open h hascii (hcut ?_)
  rw [hfirst]
  rfl

/-- **A configuration that cannot be written takes the saved one with it.** Saving ends in one of
three ways. Either there was no file and none can be made, or the file ends up with as much of the
configuration as could be written, whatever it held before; if that is not all of it, then the
defaults are loaded from it. -/
theorem after_saving (c : Config) (s : FileStore) : c.Saves s := by
  cases hopen : (FileStore.openWithin c.path).run s with
  | error e s₁ =>
    have hrun : c.save.run s = .error (.file e) s₁ := by
      have hrun : FileStore.openWithin c.path s = .error e s₁ := hopen
      rw [save_eq, EStateM.run_bind, EStateM.run, EStateM.adaptExcept, hrun]
    refine .blocked hrun fun address bytes h ↦ ?_
    -- a file that is there can be opened
    rw [h.run_openWithin] at hopen
    cases hopen
  | ok address s₁ =>
    have hrun := run_save_eq hopen
    have hsame (address' : List String) (bytes : ByteArray) (h : s.Holds c.path address' bytes) :
        address' = address := by
      rw [h.run_openWithin] at hopen
      injection hopen
    have hfile := (FileStore.holds_of_openWithin hopen).putAt
      (Json.text .indented (.object c.values)).1.toUTF8
    cases hfirst : Json.unwritableMember? c.values with
    | none =>
      rw [hfirst] at hrun
      exact .complete hrun hfirst hsame hfile
    | some e =>
      rw [hfirst] at hrun
      exact .cutShort hrun hfirst hsame hfile (load_of_cut hfirst hfile)

/-- A configuration with one number in it. -/
def sampleCounted : Config :=
  ⟨"c.json", [("depth", .int 3)]⟩

/-- What was saved is not safe from saving again: if a set is assigned to the sample after it was
saved, then saving it fails, the file does not hold what it held, and what is loaded is not what was
loaded before. -/
theorem not_kept_by_failed_save :
    ¬ ∀ (c : Config) (key : String) (value : Json) (s s₁ s₂ : FileStore) (e : SaveError),
      c.save.run s = .ok () s₁ → (c.set key value).save.run s₁ = .error e s₂ →
        (∀ address bytes, s₁.Holds c.path address bytes → s₂.Holds c.path address bytes) ∨
          (load s₂ c.path).1 = (load s₁ c.path).1 := by
  intro h
  have hproper : Section.Proper sampleCounted.values := by
    refine .object (by decide) fun e he ↦ .plain ?_
    rw [List.mem_singleton.1 he]
    rfl
  have hlegible : Section.Legible sampleCounted.values := by
    refine Section.legible_of_isAscii (by decide) fun e he ↦ ?_
    rw [List.mem_singleton.1 he]
    exact .int (by decide)
  -- the sample is saved where there was nothing
  have hopen : (FileStore.openWithin sampleCounted.path).run .empty = .ok ["c.json"] _ := rfl
  have hsaved := (FileStore.holds_of_openWithin hopen).putAt
    (Json.text .indented (.object sampleCounted.values)).1.toUTF8
  -- with the set it is not
  have hforeign : Json.unwritableMember? (sampleCounted.set "tags" (.foreign "set")).values =
      some (.foreign "set") := rfl
  have hreopen : (FileStore.openWithin (sampleCounted.set "tags" (.foreign "set")).path).run _ =
      .ok ["c.json"] _ := hsaved.run_openWithin
  have hfailed := run_save_eq hreopen
  rw [hforeign] at hfailed
  have hafter := load_of_cut hforeign ((FileStore.holds_of_openWithin hreopen).putAt _)
  have hlost : (⟨sampleCounted.path, defaults⟩ : Config) ≠
      ⟨sampleCounted.path, Section.merge defaults sampleCounted.values⟩ := fun heq ↦
    absurd (congrArg (fun c ↦ c.values.length) heq) (by decide)
  obtain hkept | hsame := h sampleCounted "tags" (.foreign "set") _ _ _ _ (run_save hlegible hopen)
    hfailed
  · exact hlost (hafter.symm.trans (load_of_holds hproper hlegible (hkept _ _ hsaved)))
  · exact hlost (hafter.symm.trans (hsame.trans (load_of_holds hproper hlegible hsaved)))

end Config

end TreePath
