/-
Scriptlet.Proofs.Session.Filing — what filing issues does to a report.

Filing only ever adds issues at the end. All that were to be filed are there,
unless the limit is reached; then the report holds a beginning of them, the one
that reached the limit included.
-/
import Scriptlet.Report

namespace Scriptlet.Report

variable {r r' : Report} {issues : List Issue} {overflow : Overflow}

def adding (r : Report) (issues : List Issue) : Report :=
  { r with issues := r.issues ++ issues.toArray }

@[simp] theorem adding_nil (r : Report) : r.adding [] = r := by
  cases r
  simp [adding]

@[simp] theorem adding_adding (r : Report) (issues more : List Issue) :
    (r.adding issues).adding more = r.adding (issues ++ more) := by
  simp [adding]

theorem size_adding (r : Report) (issues : List Issue) :
    (r.adding issues).issues.size = r.issues.size + issues.length := by
  simp [adding]

theorem push_issues (r : Report) (issue : Issue) :
    { r with issues := r.issues.push issue } = r.adding [issue] := rfl

/-- An issue that was filed is the last one of the report. -/
theorem file_eq_ok {issue : Issue} (filed : r.file issue = .ok r') :
    r' = r.adding [issue] := by
  rw [file] at filed
  split at filed
  · cases filed
  · cases filed
    exact push_issues r issue

theorem file_eq_error {issue : Issue} (reached : r.file issue = .error overflow) :
    overflow.report = r.adding [issue] := by
  rw [file] at reached
  split at reached
  · cases reached
    exact push_issues r issue
  · cases reached

theorem fileAll_cons (r : Report) (issue : Issue) (rest : List Issue) :
    r.fileAll (issue :: rest) =
      match r.file issue with
      | .ok filed => filed.fileAll rest
      | .error overflow => .error overflow := rfl

/-- The first issues decide whether the others are filed. -/
theorem fileAll_append (r : Report) (issues more : List Issue) :
    r.fileAll (issues ++ more) =
      match r.fileAll issues with
      | .ok filed => filed.fileAll more
      | .error overflow => .error overflow := by
  induction issues generalizing r with
  | nil => rfl
  | cons issue rest ih =>
    rw [List.cons_append, fileAll_cons, fileAll_cons]
    cases r.file issue with
    | ok filed => exact ih filed
    | error overflow => rfl

theorem fileAll_singleton (r : Report) (issue : Issue) : r.fileAll [issue] = r.file issue := by
  rw [fileAll_cons]
  cases r.file issue <;> rfl

/-- Issues that are all filed stand at the end of the report. -/
theorem fileAll_eq_ok (filed : r.fileAll issues = .ok r') : r' = r.adding issues := by
  induction issues generalizing r with
  | nil =>
    cases filed
    exact (adding_nil _).symm
  | cons issue rest ih =>
    rw [fileAll_cons] at filed
    split at filed
    · next first found =>
      rw [ih filed, file_eq_ok found, adding_adding, List.singleton_append]
    · cases filed

/-- Where the limit is reached, a beginning of the issues has been filed, and at least one. -/
theorem fileAll_eq_error (reached : r.fileAll issues = .error overflow) :
    ∃ filed, filed ≠ [] ∧ filed <+: issues ∧ overflow.report = r.adding filed := by
  induction issues generalizing r with
  | nil => cases reached
  | cons issue rest ih =>
    rw [fileAll_cons] at reached
    split at reached
    · next first found =>
      obtain ⟨filed, -, ⟨more, whole⟩, last⟩ := ih reached
      refine ⟨issue :: filed, List.cons_ne_nil _ _, ⟨more, by rw [List.cons_append, whole]⟩, ?_⟩
      rw [last, file_eq_ok found, adding_adding, List.singleton_append]
    · next full found =>
      cases reached
      exact ⟨[issue], List.cons_ne_nil _ _, ⟨rest, rfl⟩, file_eq_error found⟩

/-- Filing goes well unless it makes the number equal to the limit. -/
theorem file_eq_ok_iff {issue : Issue} :
    r.file issue = .ok (r.adding [issue]) ↔ (r.issues.size : Int) + 1 ≠ r.limit := by
  have size : ((r.issues.push issue).size : Int) = r.issues.size + 1 := by
    rw [Array.size_push, Int.natCast_add]
    rfl
  rw [file, size]
  constructor
  · intro filed reached
    rw [if_pos reached] at filed
    cases filed
  · intro notReached
    rw [if_neg notReached, push_issues]

/-- Whether issues are all filed is a matter of their number, and fewer are filed where
more are: the limit is reached by count alone. -/
theorem fileAll_of_length_le {r₁ r₂ : Report} (size : r₁.issues.size = r₂.issues.size)
    (limit : r₁.limit = r₂.limit) {issues issues' : List Issue}
    (filed : r₁.fileAll issues = .ok r') (le : issues'.length ≤ issues.length) :
    r₂.fileAll issues' = .ok (r₂.adding issues') := by
  induction issues' generalizing r₁ r₂ issues with
  | nil => rw [adding_nil]; rfl
  | cons issue' rest' ih =>
    cases issues with
    | nil => cases le
    | cons issue rest =>
      rw [fileAll_cons] at filed
      split at filed
      · next first found =>
        obtain rfl := file_eq_ok found
        rw [file_eq_ok_iff, size, limit] at found
        rw [fileAll_cons, file_eq_ok_iff.mpr found]
        have size' : (r₁.adding [issue]).issues.size = (r₂.adding [issue']).issues.size := by
          rw [size_adding, size_adding, size]
          rfl
        show (r₂.adding [issue']).fileAll rest' = _
        rw [ih size' limit filed (Nat.le_of_succ_le_succ le), adding_adding,
          List.singleton_append]
      · cases filed

/-- The limit is reached by one issue only: a report that holds as many takes any more. -/
theorem file_of_full (full : r.limit ≤ r.issues.size) (issue : Issue) :
    r.file issue = .ok (r.adding [issue]) :=
  file_eq_ok_iff.mpr (by omega)

/-- Past its limit a report takes whatever comes. -/
theorem fileAll_of_full (full : r.limit ≤ r.issues.size) (issues : List Issue) :
    r.fileAll issues = .ok (r.adding issues) := by
  induction issues generalizing r with
  | nil => rw [adding_nil]; rfl
  | cons issue rest ih =>
    have full' : (r.adding [issue]).limit ≤ (r.adding [issue]).issues.size := by
      rw [size_adding]
      exact Int.le_trans full (Int.ofNat_le.mpr (Nat.le_add_right _ _))
    rw [fileAll_cons, file_of_full full]
    show (r.adding [issue]).fileAll rest = _
    rw [ih full', adding_adding, List.singleton_append]

/-- A report without a limit takes any issues. -/
theorem fileAll_of_unlimited (unlimited : r.limit ≤ 0) (issues : List Issue) :
    r.fileAll issues = .ok (r.adding issues) :=
  fileAll_of_full (Int.le_trans unlimited (Int.natCast_nonneg _)) issues

end Scriptlet.Report
