import TreePath.FileStore

/-!
# The path above a path

A path is followed name by name, so it leads to what is above its last name first. Here this is said
of the texts: the path before the last slash of a path has the same names but the last
(`names_splitLast`), it is fit to be a path if the whole is (`Fit.head`), and so it leads to a
directory if the whole leads anywhere (`exists_resolve_head`).

Only the text of a path says what is above it, and texts have more forms than addresses: slashes may
be repeated, there may be one at the end, and the path may begin with one. The names that stand
between slashes do not show any of this, and so the lemmas pass from texts to lists of characters
and from these to names (`inner`). What becomes of the last slashes is found out once, in
`splitLast_cases`. After that only names are compared.

A path is fit if it is neither empty nor too long, can be put into bytes, and has no zero byte
(`Fit`). Only that it can be put into bytes needs an argument, since a text may be cut between the
two halves of a pair. A slash is no such half (`pointsFrom_append_slash`).
-/

namespace TreePath

namespace Text

/-! ### Halves in the name of a file -/

/-- The first halves in a row come after what has none. -/
theorem halfRun?_cases (place : Nat) (ns : List Nat) :
    halfRun? place ns = none ∧ (∀ n ∈ ns, isHalf n = false) ∨
      ∃ before halves after, ns = before ++ (halves ++ after) ∧ halves ≠ [] ∧
        (∀ n ∈ before, isHalf n = false) ∧ (∀ n ∈ halves, isHalf n = true) ∧
        halfRun? place ns = some ⟨place + before.length, halves⟩ := by
  induction ns generalizing place with
  | nil => exact .inl ⟨rfl, nofun⟩
  | cons n rest ih =>
    rw [halfRun?]
    by_cases hn : isHalf n = true
    · refine .inr ⟨[], n :: rest.takeWhile isHalf, rest.dropWhile isHalf, ?_, by simp, nofun, ?_,
        ?_⟩
      · rw [List.nil_append, List.cons_append, List.takeWhile_append_dropWhile]
      · exact List.forall_mem_cons.2 ⟨hn, fun m hm ↦ List.all_eq_true.1 List.all_takeWhile m hm⟩
      · rw [if_pos hn]
        rfl
    · have hn' : isHalf n = false := by simpa using hn
      rw [if_neg hn]
      rcases ih (place + 1) with
        ⟨hnone, hrest⟩ | ⟨before, halves, after, hsplit, hne, hb, hh, hsome⟩
      · exact .inl ⟨hnone, List.forall_mem_cons.2 ⟨hn', hrest⟩⟩
      · refine .inr ⟨n :: before, halves, after, by rw [hsplit]; rfl, hne,
          List.forall_mem_cons.2 ⟨hn', hb⟩, hh, ?_⟩
        rw [hsome, List.length_cons, Nat.add_assoc, Nat.add_comm 1]

/-- Nothing is wrong with the halves in the name of a file if each stands for a byte. -/
theorem fileHalves?_eq_none_iff {fuel place : Nat} {ns : List Nat} (hfuel : ns.length < fuel) :
    fileHalves? fuel place ns = none ↔ ∀ n ∈ ns, isHalf n = true → isByteHalf n = true := by
  induction fuel generalizing place ns with
  | zero => omega
  | succ fuel ih =>
    rw [fileHalves?]
    rcases halfRun?_cases place ns with
      ⟨hnone, hns⟩ | ⟨before, halves, after, rfl, hne, hb, hh, hsome⟩
    · rw [hnone]
      exact iff_of_true rfl fun n hn hhalf ↦ by simp [hns n hn] at hhalf
    · rw [hsome]
      have hbefore : ∀ n ∈ before, isHalf n = true → isByteHalf n = true := fun n hn hhalf ↦ by
        simp [hb n hn] at hhalf
      simp only [List.forall_mem_append]
      -- halves that all stand for bytes are skipped, and what comes after them is shorter
      by_cases hall : halves.all isByteHalf = true
      · have hhalves : ∀ n ∈ halves, isHalf n = true → isByteHalf n = true := fun n hn _ ↦
          List.all_eq_true.1 hall n hn
        have hpositive : 0 < halves.length := List.length_pos_iff.2 hne
        have hdrop : (before ++ (halves ++ after)).drop
            (place + before.length + halves.length - place) = after := by
          have hcount : place + before.length + halves.length - place =
              before.length + halves.length := by omega
          rw [hcount, ← List.append_assoc, ← List.length_append, List.drop_left]
        have hafter : after.length < fuel := by
          simp only [List.length_append] at hfuel
          omega
        simp only [if_pos hall, hdrop, ih hafter]
        exact ⟨fun h ↦ ⟨hbefore, hhalves, h⟩, fun h ↦ h.2.2⟩
      · simp only [if_neg hall]
        refine iff_of_false nofun fun h ↦ hall (List.all_eq_true.2 fun n hn ↦ ?_)
        exact h.2.1 n hn (hh n hn)

/-- A slash is a code point of its own, whatever stands before it. -/
theorem pointsFrom_append_slash (marked : Bool) (s t : List Char) :
    pointsFrom marked (s ++ '/' :: t) = pointsFrom marked s ++ '/'.toNat :: points t := by
  have hslash : isMarked '/' = false := by decide +kernel
  have hmark : '/' ≠ pointMark := by decide +kernel
  have hhalf : half? '/' = none := by decide +kernel
  induction s generalizing marked with
  | nil => cases marked <;> simp [pointsFrom, hslash, hmark, hhalf, points]
  | cons c rest ih =>
    cases marked with
    | false =>
      simp only [List.cons_append, pointsFrom, ih]
      split <;> rfl
    | true =>
      simp only [List.cons_append, pointsFrom, ih]
      split <;> rfl

theorem points_append_slash (s t : List Char) :
    points (s ++ '/' :: t) = points s ++ '/'.toNat :: points t :=
  pointsFrom_append_slash false s t

end Text

namespace FilePath

/-! ### Names -/

/-- The names that a text has between its slashes. -/
def inner (s : List Char) : List String :=
  ((Text.splitChars '/' s).map String.ofList).filter fun name ↦ name != ""

/-- The names of a path are those between its slashes, after a slash that it may begin with. -/
theorem names_eq (path : String) :
    names path = (if path.toList.head? = some '/' then ["/"] else []) ++ inner path.toList :=
  rfl

/-- A slash keeps names apart. -/
theorem inner_append (s t : List Char) : inner (s ++ '/' :: t) = inner s ++ inner t := by
  rw [inner, Text.splitChars_append, List.map_append, List.filter_append]
  rfl

/-- A slash in front adds no name. -/
theorem inner_slash (s : List Char) : inner ('/' :: s) = inner s :=
  inner_append [] s

/-- Nor do several of them. -/
theorem inner_replicate (k : Nat) (t : List Char) :
    inner (List.replicate k '/' ++ t) = inner t := by
  induction k with
  | zero => rfl
  | succ k ih => rw [List.replicate_succ, List.cons_append, inner_slash, ih]

/-- A text without slashes is a name, unless it is empty. -/
theorem inner_of_not_mem {name : String} (h : '/' ∉ name.toList) :
    inner name.toList = [name].filter fun name ↦ name != "" := by
  rw [inner, Text.splitChars_of_not_mem h, List.map_singleton, String.ofList_toList]

/-! ### Before and after the last slash -/

/-- What is dropped at the end is slashes. -/
theorem exists_dropSlashes (s : List Char) : ∃ k, dropSlashes s ++ List.replicate k '/' = s := by
  refine ⟨(s.reverse.takeWhile (· == '/')).length, ?_⟩
  have hslashes : s.reverse.takeWhile (· == '/') =
      List.replicate (s.reverse.takeWhile (· == '/')).length '/' :=
    List.eq_replicate_of_mem fun c hc ↦ beq_iff_eq.1 (List.all_eq_true.1 List.all_takeWhile c hc)
  rw [← List.reverse_replicate, ← hslashes, dropSlashes, ← List.reverse_append,
    List.takeWhile_append_dropWhile, List.reverse_reverse]

/-- One more slash at the end makes no difference. -/
theorem dropSlashes_append_slash (s : List Char) : dropSlashes (s ++ ['/']) = dropSlashes s := by
  rw [dropSlashes, List.reverse_append]
  rfl

/-- A path is what is before its last slashes, these, and a name without slashes; or that name
alone. What is before the last slash is the path before the last slashes, or these if there is
nothing before them. -/
theorem splitLast_cases (path : String) : '/' ∉ (splitLast path).2.toList ∧
    ((splitLast path).1 = "" ∧ path = (splitLast path).2 ∨
      ∃ x k, path.toList = x ++ '/' :: (List.replicate k '/' ++ (splitLast path).2.toList) ∧
        (x ≠ [] ∧ (splitLast path).1.toList = x ∨
          x = [] ∧ (splitLast path).1.toList = '/' :: List.replicate k '/')) := by
  have htail : '/' ∉ path.toList.reverse.takeWhile (· != '/') := fun hmem ↦ by
    have hslash := List.all_eq_true.1 List.all_takeWhile '/' hmem
    simp at hslash
  have hwhole : (path.toList.reverse.dropWhile (· != '/')).reverse ++
      (path.toList.reverse.takeWhile (· != '/')).reverse = path.toList := by
    rw [← List.reverse_append, List.takeWhile_append_dropWhile, List.reverse_reverse]
  have hfirst := List.head?_dropWhile_not (· != '/') path.toList.reverse
  rw [splitLast]
  generalize path.toList.reverse.takeWhile (· != '/') = tail at htail hwhole ⊢
  generalize path.toList.reverse.dropWhile (· != '/') = head at hwhole hfirst ⊢
  simp only [String.toList_ofList]
  refine ⟨fun hmem ↦ htail (List.mem_reverse.1 hmem), ?_⟩
  rcases head with - | ⟨c, head⟩
  · refine .inl ⟨rfl, String.toList_injective ?_⟩
    rw [String.toList_ofList, ← hwhole]
    rfl
  · obtain rfl : c = '/' := by simpa using hfirst
    obtain ⟨k, hk⟩ := exists_dropSlashes head.reverse
    rw [List.reverse_cons] at hwhole ⊢
    rw [dropSlashes_append_slash]
    have hhead : head.reverse ++ ['/'] =
        dropSlashes head.reverse ++ '/' :: List.replicate k '/' := by
      rw [← List.replicate_succ, List.replicate_succ', ← List.append_assoc, hk]
    refine .inr ⟨dropSlashes head.reverse, k, ?_, ?_⟩
    · rw [← hwhole, hhead, List.append_assoc, List.cons_append]
    · by_cases hnil : dropSlashes head.reverse = []
      · refine .inr ⟨hnil, ?_⟩
        rw [hnil] at hhead ⊢
        exact hhead
      · exact .inl ⟨hnil, if_neg (by simpa using hnil)⟩

/-- Something comes after the last slash of a path that does not end in one. -/
theorem splitLast_snd_ne {path : String} (hne : path ≠ "")
    (hplain : path.toList.getLast? ≠ some '/') : (splitLast path).2 ≠ "" := fun htail ↦ by
  obtain ⟨-, ⟨-, hpath⟩ | ⟨x, k, hpath, -⟩⟩ := splitLast_cases path
  · exact hne (hpath.trans htail)
  · refine hplain ?_
    rw [hpath, htail, String.toList_empty, List.append_nil, ← List.replicate_succ,
      List.replicate_succ', ← List.append_assoc, List.getLast?_concat]

/-- The names of a path are those of the path before its last slash, and what is after it, if that
is a name. -/
theorem names_splitLast (path : String) :
    names path = names (splitLast path).1 ++
      [(splitLast path).2].filter fun name ↦ name != "" := by
  obtain ⟨htail, ⟨hhead, hpath⟩ | ⟨x, k, hpath, ⟨hne, hhead⟩ | ⟨rfl, hhead⟩⟩⟩ :=
    splitLast_cases path
  · rw [hhead, ← inner_of_not_mem htail, ← hpath]
    rw [← hpath] at htail
    have hlead : path.toList.head? ≠ some '/' := fun h ↦ htail (List.mem_of_mem_head? h)
    rw [names_eq, if_neg hlead]
    rfl
  · obtain ⟨c, x, rfl⟩ := List.exists_cons_of_ne_nil hne
    rw [names_eq, names_eq, hpath, hhead, inner_append, inner_replicate, inner_of_not_mem htail,
      ← List.append_assoc]
    rfl
  · have hnone : inner (List.replicate k '/') = [] := by
      rw [← List.append_nil (List.replicate k '/'), inner_replicate]
      rfl
    rw [names_eq, names_eq, hpath, hhead, List.nil_append, inner_slash, inner_slash,
      inner_replicate, inner_of_not_mem htail, hnone, List.append_nil]
    rfl

end FilePath

namespace FileStore

/-! ### Fit paths -/

/-- A text that is fit to be a path. -/
structure Fit (path : String) : Prop where
  /-- Halves stand for bytes. -/
  halves : ∀ n ∈ Text.points path.toList, Text.isHalf n = true → Text.isByteHalf n = true
  /-- The character with number zero does not occur. -/
  null : '\x00' ∉ path.toList
  /-- It is not too long. -/
  short : Text.byteLength path ≤ pathLimit
  /-- It is not empty. -/
  nonempty : path ≠ ""

/-- A path is resolved if it is fit to be one and its names lead somewhere. -/
theorem resolve_eq_ok_iff {s : FileStore} {path : String} {address : List String} :
    s.resolve path = .ok address ↔
      Fit path ∧ s.follow path [] (FilePath.names path) = .ok address := by
  have hhalves : Text.fileHalves? ((Text.points path.toList).length + 1) 0
        (Text.points path.toList) = none ↔
      ∀ n ∈ Text.points path.toList, Text.isHalf n = true → Text.isByteHalf n = true :=
    Text.fileHalves?_eq_none_iff (Nat.lt_succ_self _)
  rw [resolve]
  constructor
  · intro h
    split at h
    · cases h
    · next hnone =>
      split at h
      · cases h
      · next hnull =>
        split at h
        · cases h
        · next hlong =>
          split at h
          · cases h
          · next hne =>
            have hwhole := hhalves.1 (Option.eq_none_iff_forall_ne_some.2 hnone)
            exact ⟨⟨hwhole, by simpa using hnull, Nat.le_of_not_lt hlong, hne⟩, h⟩
  · rintro ⟨⟨hn, hnull, hshort, hne⟩, h⟩
    rw [hhalves.2 hn]
    simp [hnull, Nat.not_lt.2 hshort, hne, h]

theorem le_foldl_add (n : Nat) (ns : List Nat) : n ≤ ns.foldl (· + ·) n := by
  induction ns generalizing n with
  | nil => exact Nat.le_refl n
  | cons m ns ih => exact Nat.le_trans (Nat.le_add_right n m) (ih (n + m))

/-- A path goes on after what is before its last slash, in characters and in code points. -/
theorem exists_head_append (path : String) : ∃ rest,
    path.toList = (FilePath.splitLast path).1.toList ++ rest ∧
      Text.points path.toList =
        Text.points (FilePath.splitLast path).1.toList ++ Text.points rest := by
  have hslash (t : List Char) : Text.points ('/' :: t) = '/'.toNat :: Text.points t :=
    Text.points_append_slash [] t
  obtain ⟨-, ⟨hhead, -⟩ | ⟨x, k, hpath, ⟨-, hhead⟩ | ⟨rfl, hhead⟩⟩⟩ := FilePath.splitLast_cases path
  · rw [hhead]
    exact ⟨path.toList, rfl, rfl⟩
  · rw [hpath, hhead, Text.points_append_slash]
    exact ⟨_, rfl, congrArg _ (hslash _).symm⟩
  · rw [hpath, hhead]
    refine ⟨_, rfl, ?_⟩
    -- of the slashes that are before the last one, the last divides the code points
    have hslashes : '/' :: List.replicate k '/' = List.replicate k '/' ++ ['/'] := by
      rw [← List.replicate_succ, List.replicate_succ']
    rw [List.nil_append, ← List.cons_append, hslashes, List.append_assoc, List.singleton_append,
      Text.points_append_slash, Text.points_append_slash, List.append_assoc]
    rfl

/-- What is before the last slash of a path is fit to be one, unless it is empty. -/
theorem Fit.head {path : String} (h : Fit path) (hne : (FilePath.splitLast path).1 ≠ "") :
    Fit (FilePath.splitLast path).1 := by
  obtain ⟨rest, hpath, hpoints⟩ := exists_head_append path
  have hlength : Text.byteLength (FilePath.splitLast path).1 ≤ Text.byteLength path := by
    rw [Text.byteLength, Text.byteLength, hpoints, List.map_append, List.foldl_append]
    exact le_foldl_add _ _
  refine ⟨fun n hn ↦ h.halves n ?_, fun hnull ↦ h.null ?_, Nat.le_trans hlength h.short, hne⟩
  · rw [hpoints]
    exact List.mem_append_left _ hn
  · rw [hpath]
    exact List.mem_append_left _ hnull

/-! ### Following names -/

/-- Names lead to the same place in every store that has the directories on the way. -/
theorem follow_mono {s s' : FileStore}
    (hdirs : ∀ b, s.placeAt? b = some .directory → s'.placeAt? b = some .directory)
    {path : String} {here : List String} {ns : List String} {address : List String}
    (h : s.follow path here ns = .ok address) (path' : String) :
    s'.follow path' here ns = .ok address := by
  induction ns generalizing here with
  | nil => exact h
  | cons name rest ih =>
    rw [follow] at h ⊢
    split at h
    · cases h
    · next hname =>
      rw [if_neg hname]
      cases rest with
      | nil => exact h
      | cons next more =>
        simp only at h ⊢
        split at h
        · next hdir =>
          rw [hdirs _ hdir]
          exact ih h
        · cases h
        · cases h

/-- Whatever names lead to, those before the last lead to a directory. -/
theorem exists_follow_of_append {s : FileStore} {path : String} {here : List String}
    {ns : List String} {name : String} {address : List String}
    (hhere : s.placeAt? here = some .directory)
    (h : s.follow path here (ns ++ [name]) = .ok address) :
    ∃ b, s.follow path here ns = .ok b ∧ s.placeAt? b = some .directory := by
  induction ns generalizing here with
  | nil => exact ⟨here, rfl, hhere⟩
  | cons first rest ih =>
    rw [List.cons_append, follow] at h
    rw [follow]
    split at h
    · cases h
    · next hfirst =>
      rw [if_neg hfirst]
      -- a name comes after this one, so what this one leads to is looked at
      obtain ⟨next, more, hmore⟩ := List.exists_cons_of_ne_nil
        (List.append_ne_nil_of_right_ne_nil rest (List.cons_ne_nil name []))
      rw [hmore] at h
      simp only at h
      split at h
      · next hdir =>
        rw [← hmore] at h
        cases rest with
        | nil => exact ⟨_, rfl, hdir⟩
        | cons second rest =>
          simp only [hdir]
          exact ih hdir h
      · cases h
      · cases h

/-- Whatever a path leads to, what is before its last slash leads to a directory, unless nothing
comes after the slash. -/
theorem exists_resolve_head {s : FileStore} {path : String} {address : List String}
    (h : s.resolve path = .ok address) (hne : (FilePath.splitLast path).1 ≠ "") :
    ∃ b, s.resolve (FilePath.splitLast path).1 = .ok b ∧
      ((FilePath.splitLast path).2 ≠ "" → s.placeAt? b = some .directory) := by
  obtain ⟨hfit, hfollow⟩ := resolve_eq_ok_iff.1 h
  rw [FilePath.names_splitLast] at hfollow
  by_cases htail : (FilePath.splitLast path).2 = ""
  · rw [htail] at hfollow
    have hsame := follow_mono (fun _ hb ↦ hb) hfollow (FilePath.splitLast path).1
    refine ⟨address, resolve_eq_ok_iff.2 ⟨hfit.head hne, ?_⟩, absurd htail⟩
    rwa [List.filter_cons_of_neg (by simp), List.filter_nil, List.append_nil] at hsame
  · rw [List.filter_cons_of_pos (by simpa using htail), List.filter_nil] at hfollow
    obtain ⟨b, hb, hdir⟩ := exists_follow_of_append rfl hfollow
    have hsame := follow_mono (fun _ hb ↦ hb) hb (FilePath.splitLast path).1
    exact ⟨b, resolve_eq_ok_iff.2 ⟨hfit.head hne, hsame⟩, fun _ ↦ hdir⟩

end FileStore

end TreePath
