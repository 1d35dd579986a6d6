/-
Scriptlet.Proofs.Session.Silent — runs of texts that are scanned without errors.

Such a run files one issue at most: the parse error that refuses the text, or the fault
that stops it. So there is an equation for each of the ways in which it can go, and
whether the report overflows depends on how many issues it holds, not on what they say.
-/
import Scriptlet.Proofs.Session.Outcome

namespace Scriptlet.Report

variable {r : Report} {text : String} (rounds : Nat) (filename : Option String)
  (env : Environment)

/-- How a run ends that files one more issue. -/
def stopping (r : Report) : Run.Verdict :=
  if (r.issues.size : Int) + 1 = r.limit then .overflowed else .failed

/-- Whether the limit is reached or not, the issue is there. -/
theorem file_stopping (r : Report) (issue : Issue) :
    r.stopping = .failed ∧ r.file issue = .ok (r.adding [issue]) ∨
      r.stopping = .overflowed ∧ r.file issue = .error { report := r.adding [issue] } := by
  by_cases reached : (r.issues.size : Int) + 1 = r.limit
  · obtain filed | filed := r.file_cases issue
    · exact absurd reached (file_eq_ok_iff.mp filed)
    · exact .inr ⟨if_pos reached, filed⟩
  · exact .inl ⟨if_neg reached, file_eq_ok_iff.mpr reached⟩

theorem stopped_stopping (r : Report) : r.stopping.Stopped := by
  unfold stopping
  split
  · exact .inr rfl
  · exact .inl rfl

def refusing {α : Type} (r : Report) : Review.Outcome α :=
  match r.stopping with
  | .overflowed => .overflowed
  | _ => .refused

/-- What a verbose report has to say on the scan of a text. -/
def scanNote (r : Report) (text : String) : String :=
  r.note ["Scanned", toString (Scan.ofText text).tokens.length, "tokens."]

/-- Without lexical errors a review is left to the grammar. -/
theorem review_of_silent {α : Type} (silent : (Scan.ofText text).errors = [])
    (grammar : Stream → Except ParseError α) :
    r.review grammar text =
      r.reviewTokens (r.scanNote text) (grammar (Scan.ofText text).stream) := by
  rw [review_eq, Scan.issues, silent]
  rfl

theorem review_of_refusal {α : Type} {grammar : Stream → Except ParseError α}
    (silent : (Scan.ofText text).errors = []) {e : ParseError}
    (refusal : grammar (Scan.ofText text).stream = .error e) :
    r.review grammar text =
      { report := r.adding [Issue.ofParse e], notes := r.scanNote text
        outcome := r.refusing } := by
  rw [review_of_silent silent, refusal, reviewTokens, refusing]
  obtain ⟨verdict, filed⟩ | ⟨verdict, filed⟩ := r.file_stopping (Issue.ofParse e)
  · rw [filed, verdict]
  · rw [filed, verdict]

/-- A refused script changes nothing, and files the refusal. -/
theorem run_of_refusal (silent : (Scan.ofText text).errors = []) {e : ParseError}
    (refusal : Program.ofStream (Scan.ofText text).stream = .error e) :
    r.run rounds text filename env =
      { report := (r.setSource text filename).adding [Issue.ofParse e], env, out := ""
        notes := r.scanNote text, verdict := r.stopping } := by
  have same : (r.setSource text filename).stopping = r.stopping := rfl
  rw [run_eq, review_of_refusal silent refusal, refusing, same]
  obtain failed | overflowed := r.stopped_stopping
  · rw [failed]
    rfl
  · rw [overflowed]
    rfl

/-- A script that is read runs if nothing was filed before. -/
theorem run_of_program (silent : (Scan.ofText text).errors = []) {p : Program}
    (read : Program.ofStream (Scan.ofText text).stream = .ok p) :
    r.run rounds text filename env =
      if r.sick then
        { report := r.setSource text filename, env, out := "", notes := r.scanNote text
          verdict := .failed }
      else
        (r.setSource text filename).conclude
          (r.scanNote text ++ r.note ["Parsed", toString p.length, "statements."])
          (Stmt.execAll rounds p { env, out := "" }) := by
  rw [run_eq, review_of_silent silent, read]
  rfl

/-- A fault is filed after the run, and what was printed and assigned before it stays. -/
theorem conclude_failed (r : Report) (notes : String) (fault : Fault) (st : State) :
    r.conclude notes (.failed fault, st) =
      { report := r.adding [Issue.ofFault fault], env := st.env, out := st.out, notes
        verdict := r.stopping } := by
  rw [conclude]
  obtain ⟨verdict, filed⟩ | ⟨verdict, filed⟩ := r.file_stopping (Issue.ofFault fault)
  · rw [filed, verdict]
  · rw [filed, verdict]

end Scriptlet.Report
