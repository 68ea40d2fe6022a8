import TreePath.Proofs.FileStore.Parents

/-!
# Opening a file again

Opening a file for writing makes the directories above it and leaves an empty file. Once that has
succeeded, the path is the path of a file (`FileStore.Holds`), and it stays one whatever is written
to the file, since the way to it leads through the same directories. So what was written can be
read, and the file can be opened again, which changes nothing but the file itself
(`Holds.run_openWithin`).

A store is a list of places by address, and a change either replaces the place of an address or adds
one at the end. The first lemma says what is found afterwards (`find?_putAt`); from it follows that
a change at an address where no directory is leaves all directories in place (`directory_putAt`). A
path is followed through directories only, and so it leads where it did.

To open a file takes three steps, each of which may fail: the directories above it are made, the
path is followed, and what is there is looked at. Where the path leads somewhere already, no
directory has to be made; that it is tried all the same, and fails, is passed over
(`run_ensureDirectory`).
-/

namespace TreePath.FileStore

variable {s s' : FileStore} {path : String} {address : List String}

/-! ### Places after a change -/

/-- The entry of an address after a change is the new one, if it was the one to change. -/
theorem find?_putAt (s : FileStore) (address : List String) (p : Place) (other : List String) :
    ((s.putAt address p).places.find? fun e ↦ e.1 == other) =
      if other = address then some (address, p) else s.places.find? fun e ↦ e.1 == other := by
  rw [putAt]
  split
  · next hany =>
    -- the change leaves all addresses as they are, so the same entry is found first
    have hfirst : ∀ e : List String × Place,
        (if e.1 == address then (address, p) else e).1 = e.1 := fun e ↦ by
      split
      · next he => exact (beq_iff_eq.1 he).symm
      · rfl
    simp only [List.find?_map, Function.comp_def, hfirst]
    split
    · next heq =>
      subst heq
      obtain ⟨e, he⟩ := Option.isSome_iff_exists.1 (List.find?_isSome.2 (List.any_eq_true.1 hany))
      have hsame := List.find?_some he
      rw [he, Option.map_some, if_pos hsame]
    · next hne =>
      cases he : s.places.find? fun e ↦ e.1 == other with
      | none => rfl
      | some e =>
        have hsame : e.1 = other := by simpa using List.find?_some he
        rw [Option.map_some, if_neg (by simpa [hsame] using hne)]
  · next hnone =>
    rw [List.find?_append]
    split
    · next heq =>
      subst heq
      have hnew : (s.places.find? fun e ↦ e.1 == other) = none :=
        List.find?_eq_none.2 fun e he hsame ↦ hnone (List.any_eq_true.2 ⟨e, he, hsame⟩)
      simp [hnew]
    · next hne => simp [Ne.symm hne]

/-- What is put at an address is found there, unless there is a directory. -/
theorem placeAt?_putAt_self (h : s.placeAt? address ≠ some .directory) (p : Place) :
    (s.putAt address p).placeAt? address = some p := by
  have htop : ¬ (address.all (· == "..") = true ∨ address = ["/"]) := fun htop ↦ h (if_pos htop)
  rw [placeAt?, if_neg htop, find?_putAt, if_pos rfl, Option.map_some]

/-- What is at other addresses stays there. -/
theorem placeAt?_putAt_of_ne (s : FileStore) {other : List String} (p : Place)
    (h : other ≠ address) : (s.putAt address p).placeAt? other = s.placeAt? other := by
  rw [placeAt?, find?_putAt, if_neg h, placeAt?]

/-- Directories stay when something is put where none is. -/
theorem directory_putAt (h : s.placeAt? address ≠ some .directory) (p : Place) (other : List String)
    (hother : s.placeAt? other = some .directory) :
    (s.putAt address p).placeAt? other = some .directory := by
  have hne : other ≠ address := fun heq ↦ h (heq ▸ hother)
  rwa [placeAt?_putAt_of_ne s p hne]

/-! ### Files -/

/-- A path is that of a file, which is at an address and has these bytes. -/
structure Holds (s : FileStore) (path : String) (address : List String) (bytes : ByteArray) :
    Prop where
  /-- The path leads to the address. -/
  resolves : s.resolve path = .ok address
  /-- The path is not that of a directory. -/
  plain : path.toList.getLast? ≠ some '/'
  /-- A file with the bytes is there. -/
  place : s.placeAt? address = some (.file bytes)

variable {bytes : ByteArray}

namespace Holds

/-- A path that holds bytes leads to a file with these bytes. -/
theorem place?_eq (h : s.Holds path address bytes) : s.place? path = .ok (some (.file bytes)) := by
  simp only [place?, h.resolves, h.place, h.plain, if_false, bind, Except.bind, pure, Except.pure]

/-- Such a path is seen to hold something. -/
theorem holds_eq_true (h : s.Holds path address bytes) : s.holds path = true := by
  rw [holds, h.place?_eq]
  rfl

/-- What it holds is what is read. -/
theorem read_eq (h : s.Holds path address bytes) : s.read path = .ok bytes := by
  rw [read, h.place?_eq]
  rfl

end Holds

/-- A file that is put where no directory is, at the end of a path, is there. -/
theorem holds_putAt (hpath : s.resolve path = .ok address)
    (hplain : path.toList.getLast? ≠ some '/') (hplace : s.placeAt? address ≠ some .directory)
    (bytes : ByteArray) : (s.putAt address (.file bytes)).Holds path address bytes := by
  obtain ⟨hfit, hfollow⟩ := resolve_eq_ok_iff.1 hpath
  have hfollow' := follow_mono (directory_putAt hplace (.file bytes)) hfollow path
  exact ⟨resolve_eq_ok_iff.2 ⟨hfit, hfollow'⟩, hplain, placeAt?_putAt_self hplace _⟩

/-- Other bytes in the file do not change where it is. -/
theorem Holds.putAt (h : s.Holds path address bytes) (bytes' : ByteArray) :
    (s.putAt address (.file bytes')).Holds path address bytes' :=
  holds_putAt h.resolves h.plain (by simp [h.place]) bytes'

/-! ### Opening a file once more -/

/-- A result that needs no store is handed on. -/
theorem run_lift_bind {α β : Type} {x : Except FileError α} {a : α} (h : x = .ok a)
    (f : α → Storing β) (s : FileStore) : (lift x >>= f).run s = (f a).run s := by
  rw [h]
  rfl

/-- To look at the store does not change it. -/
theorem run_get_bind {β : Type} (f : FileStore → Storing β) (s : FileStore) :
    (get >>= f).run s = (f s).run s :=
  rfl

/-- What goes wrong is handled in the store that it leaves behind. -/
theorem run_tryCatch_of_error {α : Type} {m : Storing α} {e : FileError}
    (h : m.run s = .error e s') (handle : FileError → Storing α) :
    (tryCatch m handle).run s = (handle e).run s' := by
  have hrun : m s = .error e s' := h
  show EStateM.tryCatch m handle s = _
  delta EStateM.tryCatch
  simp only [hrun]
  rfl

/-- A directory that is there need not be made. -/
theorem run_ensureDirectory (h : s.resolve path = .ok address)
    (hdir : s.placeAt? address = some .directory) :
    (ensureDirectory path).run s = .ok () s := by
  have hholds : s.holdsDirectory path = true := by
    simp only [holdsDirectory, place?, h, hdir, bind, Except.bind, pure, Except.pure]
  have hmake : (makeDirectory path).run s = .error (.occupied path) s := by
    rw [makeDirectory, run_get_bind, run_lift_bind h, run_get_bind, hdir]
    rfl
  rw [ensureDirectory, run_tryCatch_of_error hmake, run_get_bind, hholds]
  rfl

/-- What is above the last name of a path that leads somewhere is a directory. -/
theorem exists_resolve_above (h : s.resolve path = .ok address) (hhead : (above path).1 ≠ "")
    (htail : (above path).2 ≠ "") :
    ∃ b, s.resolve (above path).1 = .ok b ∧ s.placeAt? b = some .directory := by
  rw [above] at hhead htail ⊢
  split at hhead
  · next hslash =>
    rw [if_pos hslash] at htail ⊢
    -- the path ends in a slash, so the last name is the one before it
    have hne : (FilePath.splitLast path).1 ≠ "" := fun hempty ↦ by
      rw [hempty] at hhead
      exact hhead rfl
    obtain ⟨b, hb, -⟩ := exists_resolve_head h hne
    obtain ⟨b', hb', hdir⟩ := exists_resolve_head hb hhead
    exact ⟨b', hb', hdir htail⟩
  · next hname =>
    rw [if_neg hname] at htail ⊢
    obtain ⟨b, hb, hdir⟩ := exists_resolve_head h hhead
    exact ⟨b, hb, hdir htail⟩

/-- A directory that is there need not be made, nor what is above it. -/
theorem run_ensureDirectories (h : s.resolve path = .ok address)
    (hdir : s.placeAt? address = some .directory) :
    (ensureDirectories path).run s = .ok () s := by
  have hroom : ¬ ((above path).1 ≠ "" ∧ (above path).2 ≠ "" ∧ ¬ s.holds (above path).1 = true) := by
    rintro ⟨hhead, htail, hmissing⟩
    obtain ⟨b, hb, hdir'⟩ := exists_resolve_above h hhead htail
    refine hmissing ?_
    simp only [holds, place?, hb, hdir', bind, Except.bind, pure, Except.pure, Option.isSome_some]
  rw [ensureDirectories, makeDirectoriesWithin, run_get_bind]
  simp only [if_neg hroom]
  exact run_ensureDirectory h hdir

/-- Above a path that leads somewhere there is room. -/
theorem run_makeRoom (h : s.resolve path = .ok address) (hplain : path.toList.getLast? ≠ some '/') :
    (makeRoom path).run s = .ok () s := by
  have htail := FilePath.splitLast_snd_ne (resolve_eq_ok_iff.1 h).1.nonempty hplain
  rw [makeRoom]
  by_cases hparent : FilePath.parent path = ""
  · simp [hparent]
  · obtain ⟨b, hb, hdir⟩ := exists_resolve_head h hparent
    have hensure : (ensureDirectories (FilePath.parent path)).run s = .ok () s :=
      run_ensureDirectories hb (hdir htail)
    simp only [if_neg hparent]
    exact hensure

/-- Opens a file to write to after the directories above it are made. -/
def openWithin (path : String) : Storing (List String) := do
  makeRoom path
  openFile path true

/-- Opening a file, once the address of its path is known. -/
theorem run_openFile (h : s.resolve path = .ok address) :
    (openFile path true).run s =
      if path.toList.getLast? = some '/' then .error (.isDirectory path) s
      else
        match s.placeAt? address with
        | some .directory => .error (.isDirectory path) s
        | _ => .ok address (s.putAt address (.file .empty)) := by
  rw [openFile, run_get_bind, run_lift_bind h]
  by_cases hslash : path.toList.getLast? = some '/'
  · simp only [if_pos hslash]
    rfl
  · simp only [if_neg hslash, run_get_bind]
    cases s.placeAt? address with
    | none => rfl
    | some p => cases p <;> rfl

/-- A file that was opened and emptied is there. -/
theorem holds_of_openFile (h : (openFile path true).run s = .ok address s') :
    s'.Holds path address .empty := by
  cases hr : s.resolve path with
  | error e =>
    rw [openFile, run_get_bind, hr] at h
    cases h
  | ok a =>
    rw [run_openFile hr] at h
    split at h
    · cases h
    · next hplain =>
      split at h
      · cases h
      · next hplace =>
        cases h
        exact holds_putAt hr hplain hplace .empty

/-- A file that was opened for writing is there, and empty. -/
theorem holds_of_openWithin (h : (openWithin path).run s = .ok address s') :
    s'.Holds path address .empty := by
  rw [openWithin, EStateM.run_bind] at h
  split at h
  · exact holds_of_openFile h
  · cases h

/-- **A file that is there can be opened again.** -/
theorem Holds.run_openWithin (h : s.Holds path address bytes) :
    (openWithin path).run s = .ok address (s.putAt address (.file .empty)) := by
  rw [openWithin, EStateM.run_bind, run_makeRoom h.resolves h.plain]
  simp only
  rw [run_openFile h.resolves, if_neg h.plain, h.place]

end TreePath.FileStore
