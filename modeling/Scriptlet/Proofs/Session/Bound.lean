/-
Scriptlet.Proofs.Session.Bound — how long a report stays within its limit.

The limit is looked for by equality, so it stops the one run that reaches it and none
after that. While there is room, no run gets past the limit (`size_run_le`); on a report
that is full, nothing overflows any more, and every complaint is filed (`run_of_full`).
Only a clearing brings the limit back. So a report stays within its limit, whatever is
done with it, exactly as long as only texts without a mistake are run while it is full
(`within_limit_iff`); two runs of a mistaken text are enough to get past it.
-/
import Mathlib.Data.List.Induction
import Scriptlet.Proofs.Session.Truncation

namespace Scriptlet

namespace Report

/-- What is done with a report: a script is run, on some variables, or it is cleared. -/
inductive Use
  | run (call : Call) (env : Environment)
  | clear

def after (r : Report) : Use → Report
  | .run call env => (r.run call.rounds call.text call.filename env).report
  | .clear => r.reset

/-- The report after it has been used again and again, whether it overflowed or not. -/
def afterAll (r : Report) (uses : List Use) : Report := uses.foldl after r

variable {r : Report}

/-! ## 1. One use -/

theorem limit_after (r : Report) (use : Use) : (r.after use).limit = r.limit := by
  cases use with
  | clear => rfl
  | run call env =>
    obtain ⟨filed, course⟩ := r.run_course call.rounds call.text call.filename env
    show (r.run _ _ _ _).report.limit = _
    rw [course.agrees.report]
    rfl

/-- A run does not get past a limit that is not reached yet. -/
theorem size_run_le (room : (r.issues.size : Int) < r.limit) (call : Call) (env : Environment) :
    ((r.after (.run call env)).issues.size : Int) ≤ r.limit := by
  have room' : r.RoomFor [] := by simpa [RoomFor] using room
  obtain ⟨filed, cut⟩ := truncates_run room' call.rounds call.text call.filename env
  by_cases fits : (r.setSource call.text call.filename).RoomFor filed
  · rw [after, cut.within fits]
    show (((r.setSource _ _).adding filed).issues.size : Int) ≤ _
    rw [size_adding]
    exact Int.le_of_lt fits
  · obtain ⟨-, -, size, -⟩ := cut.beyond fits
    exact Int.le_of_eq size

/-- On a full report no script starts, nothing overflows, and all complaints about the text
are filed. -/
theorem run_of_full (start : 0 < r.limit) (full : r.limit ≤ r.issues.size) (rounds : Nat)
    (text : String) (filename : Option String) (env : Environment) :
    r.run rounds text filename env =
      { report := (r.setSource text filename).adding (complaints Program.ofStream text)
        env, out := "", notes := r.scanNote text, verdict := .failed } := by
  have some : r.issues ≠ #[] := by
    rintro none
    rw [none] at full
    exact absurd start (Int.not_lt.mpr full)
  have reading := review_of_full (r := r.setSource text filename) full Program.ofStream text
  exact run_of_sick rounds filename env reading (sick_adding.mpr (.inl (sick_iff.mpr some)))

/-- A full report takes all complaints about a text without saying so, if its limit is not zero. -/
theorem size_run_of_full (start : 0 < r.limit) (full : r.limit ≤ r.issues.size) (call : Call)
    (env : Environment) :
    (r.after (.run call env)).issues.size =
      r.issues.size + (complaints Program.ofStream call.text).length := by
  rw [after, run_of_full start full]
  exact size_adding _ _

/-- From a report within its limit, a run stays within it unless the report was full and
there is a complaint about the text. -/
theorem size_run_le_iff (start : 0 < r.limit) (below : (r.issues.size : Int) ≤ r.limit)
    (call : Call) (env : Environment) :
    ((r.after (.run call env)).issues.size : Int) ≤ r.limit ↔
      ((r.issues.size : Int) = r.limit → Readable call.text) := by
  obtain room | full := Int.lt_or_eq_of_le below
  · exact ⟨fun _ same => absurd same (Int.ne_of_lt room), fun _ => size_run_le room call env⟩
  · rw [size_run_of_full start (Int.le_of_eq full.symm), ← complaints_eq_nil_iff,
      ← List.length_eq_zero_iff]
    omega

/-! ## 2. All uses -/

theorem afterAll_snoc (r : Report) (uses : List Use) (use : Use) :
    r.afterAll (uses ++ [use]) = (r.afterAll uses).after use := List.foldl_append

theorem limit_afterAll (r : Report) (uses : List Use) : (r.afterAll uses).limit = r.limit := by
  induction uses using List.reverseRecOn with
  | nil => rfl
  | append_singleton uses use ih => rw [afterAll_snoc, limit_after, ih]

end Report

open Report

/-- A report with a limit stays within it, over all that is done with it, exactly if no text
with a mistake in it is run while it holds as many issues as the limit. For from then on,
until it is cleared, no run overflows, and each files all complaints about its text. -/
theorem within_limit_iff (r : Report) (start : 0 < r.limit)
    (below : (r.issues.size : Int) ≤ r.limit) (uses : List Use) :
    ((∀ before, before <+: uses → ((r.afterAll before).issues.size : Int) ≤ r.limit) ↔
      ∀ before call env, before ++ [.run call env] <+: uses →
        ((r.afterAll before).issues.size : Int) = r.limit → Readable call.text) ∧
    ∀ before call env, before ++ [.run call env] <+: uses →
      r.limit ≤ (r.afterAll before).issues.size →
      ((r.afterAll before).run call.rounds call.text call.filename env).verdict = .failed ∧
        (r.afterAll (before ++ [.run call env])).issues =
          (r.afterAll before).issues ++ (complaints Program.ofStream call.text).toArray := by
  have start' : ∀ before, 0 < (r.afterAll before).limit := fun before => by
    rw [limit_afterAll]
    exact start
  have step : ∀ before call env, ((r.afterAll before).issues.size : Int) ≤ r.limit →
      (((r.afterAll (before ++ [.run call env])).issues.size : Int) ≤ r.limit ↔
        (((r.afterAll before).issues.size : Int) = r.limit → Readable call.text)) := by
    intro before call env bound
    rw [← limit_afterAll r before] at bound ⊢
    rw [afterAll_snoc]
    exact size_run_le_iff (start' before) bound call env
  refine ⟨⟨fun bounded before call env among => ?_, fun readable before => ?_⟩,
    fun before call env among full => ?_⟩
  · have bound := bounded before ((List.prefix_append before _).trans among)
    exact (step before call env bound).mp (bounded _ among)
  · induction before using List.reverseRecOn with
    | nil => exact fun _ => below
    | append_singleton before use ih =>
      intro among
      have bound := ih ((List.prefix_append before [use]).trans among)
      cases use with
      | clear =>
        rw [afterAll_snoc]
        exact Int.le_of_lt start
      | run call env => exact (step before call env bound).mpr (readable before call env among)
  · rw [← limit_afterAll r before] at full
    rw [afterAll_snoc, after, run_of_full (start' before) full]
    exact ⟨rfl, rfl⟩

def strayRun : Use := .run { text := "@", rounds := 0 } .empty

theorem not_readable_stray : ¬Readable "@" := by
  intro readable
  rw [Readable, scan_stray] at readable
  cases readable.1

/-- The first run fills a report with a limit of one. -/
theorem size_strayRun : ((Report.after { limit := 1 } strayRun).issues.size : Int) = 1 := by
  show ((Report.run { limit := 1 } 0 "@" none .empty).report.issues.size : Int) = 1
  rw [run_eq, review_eq, Scan.issues, scan_stray]
  rfl

/-- The second run of a stray character is made while the report is full, so the report gets
past its limit. -/
theorem within_limit_iff_stray :
    (0 < ({ limit := 1 } : Report).limit ∧
      (({ limit := 1 } : Report).issues.size : Int) ≤ ({ limit := 1 } : Report).limit) ∧
    ¬∀ before, before <+: [strayRun, strayRun] →
      ((afterAll { limit := 1 } before).issues.size : Int) ≤ 1 := by
  refine ⟨by decide, fun bounded => ?_⟩
  obtain ⟨⟨readable, -⟩, -⟩ :=
    within_limit_iff { limit := 1 } (by decide) (by decide) [strayRun, strayRun]
  exact not_readable_stray
    (readable bounded [strayRun] _ _ (List.prefix_refl _) size_strayRun)

/-- The limit does not bound the issues of a report for good: two runs of a stray character
leave more issues than one in a report with a limit of one. -/
theorem limit_not_kept :
    ¬∀ (r : Report) (uses : List Use), 0 < r.limit → r.issues = #[] →
      ((r.afterAll uses).issues.size : Int) ≤ r.limit := by
  intro kept
  have limit : (Report.after { limit := 1 } strayRun).limit = 1 := limit_after ..
  have start : 0 < (Report.after { limit := 1 } strayRun).limit := by
    rw [limit]
    decide
  have below := Int.le_of_eq (size_strayRun.trans limit.symm)
  have second := size_run_le_iff start below { text := "@", rounds := 0 } .empty
  rw [limit] at second
  have bound := kept { limit := 1 } [strayRun, strayRun] (by decide) rfl
  exact not_readable_stray (second.mp bound size_strayRun)

end Scriptlet
