import TreePath.Proofs.Selection.Session

/-!
# What selections report

The log of a session is made of what its happenings report when they come to an end. A selection
that returns reports once how much it found, and one that raises something does not. A failure is
reported by the first selection that it leaves, and by no other (`reports_of_selections`).

That it is reported only once is kept track of by its number. Failures are told apart by their
numbers, since each gets the number of those made before it (`Ledger.Numbered`), and the numbers
that are marked as reported are those of the failures that have left a selection
(`Steps.reported_iff`). So when a failure leaves a selection for the first time its number is not
marked yet, and from then on it is.

Since a failure may leave several selections one inside the other, and again others if a predicate
keeps it and raises it later, "by the first that it leaves" is a statement on the whole session. It
is proved of the steps that lead from one ledger to another, by induction from the left; what has to
be known of the past at each step is in the ledger, in the numbers that are marked.
-/

namespace TreePath

open SelectM Happening

/-! ### Numbers of failures -/

/-- Each failure has the number of those made before it. -/
def Ledger.Numbered (l : Ledger) : Prop :=
  ∀ {k : Nat} {g : Failure}, l.failures[k]? = some g → g.number = k

/-- Failures with the same number are the same. -/
theorem Ledger.Numbered.eq_of_number {l : Ledger} (hl : l.Numbered) {g g' : Failure}
    (hg : g ∈ l.failures) (hg' : g' ∈ l.failures) (h : g'.number = g.number) : g' = g := by
  obtain ⟨k, hk⟩ := List.mem_iff_getElem?.1 hg
  obtain ⟨k', hk'⟩ := List.mem_iff_getElem?.1 hg'
  rw [hl hk, hl hk'] at h
  rw [h, hk] at hk'
  exact (Option.some.inj hk').symm

theorem Ledger.Numbered.fail {l : Ledger} (hl : l.Numbered) {g : Failure}
    (hg : g.number = l.failures.length) : (l.fail g).Numbered := by
  intro k g' hk
  rw [Ledger.fail, List.getElem?_append] at hk
  split at hk
  · exact hl hk
  · obtain ⟨hzero, rfl⟩ : k - l.failures.length = 0 ∧ g = g' := by
      rw [List.getElem?_singleton] at hk
      split at hk
      · next hzero => exact ⟨hzero, Option.some.inj hk⟩
      · cases hk
    omega

/-! ### What one happening does -/

namespace Happening.Effect

variable {h : Happening} {l l' : Ledger} (heffect : h.Effect l l')

include heffect

theorem events_eq : l'.events = l.events ++ h.reports := by
  cases heffect with
  | notice | found | aborted => rfl
  | answered | passed | stopped | failed | tested | broken | left =>
    exact (List.append_nil _).symm

theorem numbered (hl : l.Numbered) : l'.Numbered := by
  cases heffect with
  | failed => exact hl.fail rfl
  | notice | answered | passed | stopped | tested | found | broken | aborted | left => exact hl

theorem failures_subset : l.failures ⊆ l'.failures := by
  cases heffect with
  | failed => exact List.subset_append_left _ _
  | notice | answered | passed | stopped | tested | found | broken | aborted | left =>
    exact List.Subset.refl _

/-- A number is marked if it was before, or if its failure leaves a selection now. -/
theorem reported_iff {n : Nat} :
    n ∈ l'.reported ↔ n ∈ l.reported ∨ ∃ g, h.Leaves g ∧ g.number = n := by
  cases heffect with
  | aborted | left =>
    simp only [leaves_selection_iff, Except.error.injEq, Raised.failure.injEq]
    grind [Ledger.abort]
  | notice | answered | passed | stopped | failed | tested | found | broken =>
    refine ⟨Or.inl, fun h ↦ h.resolve_right ?_⟩
    rintro ⟨g, ⟨e, i, p, inside, reports, heq⟩, -⟩
    cases heq

/-- A failure that leaves a selection is reported by it unless it was marked. -/
theorem reports_of_leaves {g : Failure} (hleaves : h.Leaves g) (hnew : g.number ∉ l.reported) :
    h.reports = [.aborted g] := by
  obtain ⟨e, i, p, inside, reports, rfl⟩ := hleaves
  cases heffect with
  | aborted => rfl
  | left _ hold => exact absurd hold hnew

/-- A failure is reported by a selection that it leaves, if it was not marked. -/
theorem leaves_of_mem_reports {g : Failure} (hmem : .aborted g ∈ h.reports) :
    h.Leaves g ∧ g.number ∉ l.reported := by
  cases heffect with
  | @aborted e i p inside g' l _ hnew =>
    cases List.mem_singleton.1 hmem
    exact ⟨leaves_selection_iff.2 rfl, hnew⟩
  | notice n l => cases List.mem_singleton.1 hmem
  | @found e i p inside found timing htiming l =>
    rcases List.mem_append.1 hmem with hmem | hmem
    · obtain ⟨d, hd⟩ := htiming _ hmem
      cases hd
    · cases List.mem_singleton.1 hmem
  | answered | passed | stopped | failed | tested | broken | left => cases hmem

end Happening.Effect

/-! ### What happenings do one after the other -/

namespace Steps

variable {l l' : Ledger} {hs : List Happening} (hsteps : Steps l hs l')

include hsteps

theorem events_eq : l'.events = l.events ++ hs.flatMap reports := by
  induction hsteps with
  | nil l => exact (List.append_nil _).symm
  | cons _ effect _ ih => rw [ih, effect.events_eq, List.flatMap_cons, List.append_assoc]

theorem numbered (hl : l.Numbered) : l'.Numbered := by
  induction hsteps with
  | nil l => exact hl
  | cons _ effect _ ih => exact ih (effect.numbered hl)

theorem failures_subset : l.failures ⊆ l'.failures := by
  induction hsteps with
  | nil l => exact List.Subset.refl _
  | cons _ effect _ ih => exact List.Subset.trans effect.failures_subset ih

/-- The numbers that are marked are those of the failures that left a selection. -/
theorem reported_iff {n : Nat} :
    n ∈ l'.reported ↔ n ∈ l.reported ∨ ∃ h ∈ hs, ∃ g, h.Leaves g ∧ g.number = n := by
  induction hsteps with
  | nil l => simp
  | cons _ effect _ ih =>
    rw [ih, effect.reported_iff, List.exists_mem_cons_iff, or_assoc]

/-- A failure that leaves a selection was made. -/
theorem failure_mem_of_leaves {h : Happening} {g : Failure} (hmem : h ∈ hs)
    (hleaves : h.Leaves g) : g ∈ l'.failures := by
  induction hsteps with
  | nil l => cases hmem
  | cons _ effect rest ih =>
    rcases List.mem_cons.1 hmem with rfl | hmem
    · have hbefore := effect.failure_mem_before hleaves
      exact rest.failures_subset (effect.failures_subset hbefore)
    · exact ih hmem

/-- A failure is reported by nothing but a selection that it leaves. -/
theorem leaves_of_mem_reports {h : Happening} {g : Failure} (hmem : h ∈ hs)
    (hreport : .aborted g ∈ h.reports) : h.Leaves g := by
  obtain ⟨-, l₁, l₂, heffect⟩ := hsteps.effect_of_mem hmem
  exact (heffect.leaves_of_mem_reports hreport).1

/-- A failure whose number is marked is not reported again. -/
theorem not_mem_reports {g : Failure} (hold : g.number ∈ l.reported) :
    ∀ h ∈ hs, .aborted g ∉ h.reports := by
  induction hsteps with
  | nil l => exact fun h hmem ↦ absurd hmem List.not_mem_nil
  | cons _ effect _ ih =>
    refine List.forall_mem_cons.2 ⟨fun hreport ↦ ?_, ih (effect.reported_iff.2 (Or.inl hold))⟩
    exact (effect.leaves_of_mem_reports hreport).2 hold

end Steps

/-- A failure that left no selection before leaves one with its number not marked yet. -/
theorem Steps.number_not_mem {l l' : Ledger} {hs : List Happening} (hsteps : Steps l hs l')
    (hl : l.Numbered) (hnone : l.reported = []) {g : Failure} (hg : g ∈ l'.failures)
    (hfirst : ∀ h ∈ hs, ¬ h.Leaves g) : g.number ∉ l'.reported := by
  rw [hsteps.reported_iff, hnone]
  rintro (hmem | ⟨h, hmem, g', hleaves, hnumber⟩)
  · cases hmem
  · -- only a failure with the same number could have marked it, and that is the failure itself
    have hg' := hsteps.failure_mem_of_leaves hmem hleaves
    rw [Ledger.Numbered.eq_of_number (hsteps.numbered hl) hg hg' hnumber] at hleaves
    exact hfirst h hmem hleaves

/-- Of the happenings with a property there is a first one. -/
theorem exists_first {P : Happening → Prop} {hs : List Happening} (h : ∃ a ∈ hs, P a) :
    ∃ before a after, hs = before ++ a :: after ∧ P a ∧ ∀ b ∈ before, ¬ P b := by
  induction hs with
  | nil =>
    obtain ⟨a, hmem, -⟩ := h
    cases hmem
  | cons b hs ih =>
    by_cases hb : P b
    · exact ⟨[], b, hs, rfl, hb, fun c hc ↦ absurd hc List.not_mem_nil⟩
    · have hrest : ∃ a ∈ hs, P a := ((List.exists_mem_cons_iff _ _ _).1 h).resolve_left hb
      obtain ⟨before, a, after, rfl, ha, hbefore⟩ := ih hrest
      exact ⟨b :: before, a, after, rfl, ha, List.forall_mem_cons.2 ⟨hb, hbefore⟩⟩

/-- The making of a literal reports notices and nothing else. -/
theorem exists_notices_build {α : Type} (b : Build α) (w : World) :
    ∃ notices : List Notice,
      (leave (build b) w).events.toList = w.events.toList ++ notices.map .notice := by
  obtain ⟨notices, state, hleave, -⟩ := leave_build b w
  refine ⟨notices.toList, ?_⟩
  rw [hleave]
  simp

/-! ### The log of a session -/

/-- The failure is reported by the first selection that it leaves, and by nothing else. -/
def ReportedFirst (hs : List Happening) (g : Failure) : Prop :=
  ∃ before h after, hs = before ++ h :: after ∧ h.Leaves g ∧ h.reports = [.aborted g] ∧
    (∀ h' ∈ before, ¬ h'.Leaves g) ∧ ∀ h' ∈ before ++ after, .aborted g ∉ h'.reports

theorem Steps.reportedFirst {l l' : Ledger} {hs : List Happening} (hsteps : Steps l hs l')
    (hl : l.Numbered) (hnone : l.reported = []) {g : Failure} (hleaves : ∃ h ∈ hs, h.Leaves g) :
    ReportedFirst hs g := by
  obtain ⟨before, h, after, rfl, hleaves, hfirst⟩ := exists_first hleaves
  obtain ⟨l₁, l₂, hbefore, heffect, hafter⟩ := hsteps.split
  have hnew := hbefore.number_not_mem hl hnone (heffect.failure_mem_before hleaves) hfirst
  refine ⟨before, h, after, rfl, hleaves, heffect.reports_of_leaves hleaves hnew, hfirst,
    fun h' hmem hreport ↦ ?_⟩
  rcases List.mem_append.1 hmem with hmem | hmem
  · exact hfirst h' hmem (hbefore.leaves_of_mem_reports hmem hreport)
  · have hold : g.number ∈ l₂.reported := heffect.reported_iff.2 (Or.inr ⟨g, hleaves, rfl⟩)
    exact hafter.not_mem_reports hold h' hmem hreport

/-- What is reported first is in the log once. -/
theorem ReportedFirst.count_eq_one {hs : List Happening} {g : Failure} (h : ReportedFirst hs g) :
    (hs.flatMap reports).count (.aborted g) = 1 := by
  obtain ⟨before, h, after, rfl, -, hreports, -, hnot⟩ := h
  -- nothing before or after that happening reports it
  have hzero {hs : List Happening} (hsub : hs ⊆ before ++ after) :
      (hs.flatMap reports).count (.aborted g) = 0 := by
    refine List.count_eq_zero.2 fun hmem ↦ ?_
    obtain ⟨h', hmem', hreport⟩ := List.mem_flatMap.1 hmem
    exact hnot h' (hsub hmem') hreport
  rw [List.flatMap_append, List.flatMap_cons, hreports, List.count_append, List.count_append,
    hzero (List.subset_append_left _ _), hzero (List.subset_append_right _ _),
    List.count_singleton_self]

/-- A selection that returns reports how much it found, once, after its duration if it is timed. -/
theorem Happening.Effect.reports_of_ok {e : Engine} {i : NodeId} {p : Path}
    {inside : List Happening} {reports : List Event} {found : List NodeId} {l l' : Ledger}
    (heffect : (selection e i p inside reports (.ok found)).Effect l l') :
    ∃ timing, reports = timing ++ [.matched p.length found.length] ∧
      ∀ x ∈ timing, ∃ d, x = .timed d := by
  cases heffect with
  | @found _ _ _ _ _ timing htiming => exact ⟨timing, rfl, htiming⟩

/-- A selection that raises something does not report how much it found. -/
theorem Happening.Effect.matched_not_mem_of_error {e : Engine} {i : NodeId} {p : Path}
    {inside : List Happening} {reports : List Event} {r : Raised} {l l' : Ledger}
    (heffect : (selection e i p inside reports (.error r)).Effect l l') (k m : Nat) :
    .matched k m ∉ reports := by
  cases heffect with
  | broken | left => exact List.not_mem_nil
  | aborted =>
    intro hmem
    cases List.mem_singleton.1 hmem

/-- **A failure is reported by the first selection that it leaves, and only there, and a selection
that returns reports once how much it found.** The log consists of what the happenings of the
session report, in the order in which they come to an end. A failure that leaves a selection is in
it once, as an error with the text of the failure, and is marked as reported. One that leaves no
selection, because all that it crosses are bare tests, is neither in the log nor marked. A selection
that returns reports the lengths of its path and its result, and one that raises something does not,
even if that is only because no path can be made of what it was given. -/
theorem reports_of_selections {s : Session} (hs : s.Honest) :
    s.final.events.toList = s.endings.flatMap reports ∧
      (∀ g, (∃ h ∈ s.endings, h.Leaves g) →
        ReportedFirst s.endings g ∧ s.final.events.toList.count (.aborted g) = 1 ∧
          (Event.aborted g).record.level = .error ∧
          (Event.aborted g).record.message = "Selection aborted: " ++ g.message ∧
          g.number ∈ s.final.reported) ∧
      (∀ g, (∀ h ∈ s.endings, ¬ h.Leaves g) →
        .aborted g ∉ s.final.events.toList ∧
          (g ∈ s.final.failures.toList → g.number ∉ s.final.reported)) ∧
      (∀ e i p inside reports found, .selection e i p inside reports (.ok found) ∈ s.endings →
        ∃ timing, reports = timing ++ [.matched p.length found.length] ∧
          (∀ x ∈ timing, ∃ d, x = .timed d) ∧
          (Event.matched p.length found.length).record.message =
            "Path of " ++ toString p.length ++ " step(s) matched " ++ toString found.length ++
              " element(s)") ∧
      (∀ e i p inside reports r, .selection e i p inside reports (.error r) ∈ s.endings →
        ∀ k m, .matched k m ∉ reports) ∧
      ∀ (e : Engine) (σ : Setting) (i : NodeId) (v : Literal) (w : World) (r : Raised),
        upshot (build (asPath v)) w = .error r →
          upshot (e.selectLiteral σ i v) w = .error r ∧
            ∃ notices : List Notice, (leave (e.selectLiteral σ i v) w).events.toList =
              w.events.toList ++ notices.map .notice := by
  have hsteps := hs.steps
  have hnumbered : Ledger.Numbered ⟨[], [], []⟩ := by
    intro k g hk
    cases hk
  have hevents : s.final.events.toList = s.endings.flatMap reports := hsteps.events_eq
  refine ⟨hevents, fun g hleaves ↦ ?_, fun g hnot ↦ ⟨fun hmem ↦ ?_, fun hg ↦ ?_⟩,
    fun e i p inside reports found hmem ↦ ?_, fun e i p inside reports r hmem ↦ ?_,
    fun e σ i v w r hrefused ↦ ⟨?_, ?_⟩⟩
  · have hfirst := hsteps.reportedFirst hnumbered rfl hleaves
    obtain ⟨h, hmem, hleaves⟩ := hleaves
    rw [hevents]
    exact ⟨hfirst, hfirst.count_eq_one, rfl, rfl,
      hsteps.reported_iff.2 (Or.inr ⟨h, hmem, g, hleaves, rfl⟩)⟩
  · rw [hevents] at hmem
    obtain ⟨h, hmem, hreport⟩ := List.mem_flatMap.1 hmem
    exact hnot h hmem (hsteps.leaves_of_mem_reports hmem hreport)
  · exact hsteps.number_not_mem hnumbered rfl hg hnot
  · obtain ⟨-, l₁, l₂, heffect⟩ := hsteps.effect_of_mem hmem
    obtain ⟨timing, hreports, htiming⟩ := heffect.reports_of_ok
    exact ⟨timing, hreports, htiming, rfl⟩
  · obtain ⟨-, l₁, l₂, heffect⟩ := hsteps.effect_of_mem hmem
    exact heffect.matched_not_mem_of_error
  · rw [Engine.selectLiteral, upshot_bind, hrefused]
  · rw [Engine.selectLiteral, leave_bind, hrefused]
    exact exists_notices_build (asPath v) w

/-- The failure of the sample session leaves two selections, and is reported once; the one that only
the bare test comes across is neither reported nor marked. -/
theorem reports_of_selections_sample :
    sampleSession.Honest ∧
      (∃ before h after, sampleSession.endings = before ++ h :: after ∧ h.Leaves sampleFailure) ∧
      sampleSession.final.events.toList.count (.aborted sampleFailure) = 1 ∧
      ∃ g ∈ sampleSession.final.failures.toList,
        .aborted g ∉ sampleSession.final.events.toList ∧
        g.number ∉ sampleSession.final.reported := by
  obtain ⟨h, hsplit, hleaves⟩ := sampleFailure_leaves
  have hmem := hsplit ▸ List.mem_append_right _ List.mem_cons_self
  obtain ⟨-, hleft, hcrossed, -⟩ := reports_of_selections sampleSession_honest
  let bare : Failure := ⟨1, sampleInner, 2, (sampleSession.forest.content 2).describe, sampleFault,
    sampleFault⟩
  have hbare : bare ∈ sampleSession.final.failures.toList := by decide
  have hnone : ∀ h ∈ sampleSession.endings, ¬ h.Leaves bare := by decide
  obtain ⟨hnot, hunmarked⟩ := hcrossed bare hnone
  exact ⟨sampleSession_honest, ⟨_, _, _, hsplit, hleaves⟩, (hleft _ ⟨_, hmem, hleaves⟩).2.1, bare,
    hbare, hnot, hunmarked hbare⟩

end TreePath
