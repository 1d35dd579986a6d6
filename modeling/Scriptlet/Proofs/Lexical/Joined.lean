/-
Scriptlet.Proofs.Lexical.Joined — a script, a line break, and another script.

A line feed goes on with no token and ends a comment on its line. So a script in which
no text and no comment is left open keeps its segments when a line feed and anything
else come after it, and what comes after is scanned as on its own, in other places
(`Scan.ofText_joined`).
-/
import Scriptlet.Proofs.Lexical.Stretch

namespace Scriptlet

/-! ## 1. Segments before a line break -/

/-- A blank belongs to no word and to no number, and joins with no sign. -/
theorem blank_apart {c : Char} (blank : c ∈ [' ', '\t', '\r', '\n']) :
    Scanner.continuesWord c = false ∧ Text.isDigit c = false ∧ c ∉ ['/', '*', '=', '.'] := by
  simp only [List.mem_cons, List.not_mem_nil, or_false] at blank
  obtain rfl | rfl | rfl | rfl := blank <;> exact ⟨by decide, by decide, by decide⟩

/-- Nothing that goes on with a token has a blank in it. -/
theorem Lexeme.Extends.no_blank {kind : Token.Kind} {lexeme next : List Char}
    (extend : Extends lexeme kind next) {b : Char} (blank : b ∈ [' ', '\t', '\r', '\n']) :
    b ∉ next := by
  obtain ⟨noWord, noDigit, noSign⟩ := blank_apart blank
  have single : ∀ {p : Char → Bool} {cs : List Char}, p b = false →
      (∃ c, cs = [c] ∧ p c = true) → b ∉ cs := by
    rintro p cs not ⟨c, rfl, holds⟩ mem
    rw [← List.mem_singleton.mp mem, not] at holds
    cases holds
  have sign : ∀ c ∈ ['/', '*', '=', '.'], b ∉ [c] := fun c among mem =>
    noSign (List.mem_singleton.mp mem ▸ among)
  cases kind with
  | keyword k | identifier => exact single noWord extend
  | number =>
    obtain extend | ⟨-, c, rfl, digit⟩ := extend
    · exact single noDigit extend
    · rw [List.mem_cons, not_or]
      exact ⟨fun same => sign '.' (by decide) (same ▸ List.mem_cons_self),
        single noDigit ⟨c, rfl, digit⟩⟩
  | mark m =>
    cases m with
    | slash =>
      obtain rfl | rfl := extend
      · exact sign '/' (by decide)
      · exact sign '*' (by decide)
    | bang | equal | less | greater =>
      obtain rfl := extend
      exact sign '=' (by decide)
    | _ => cases extend
  | text | foreign | finish => cases extend

/-- What is free of a character cannot reach past it. -/
theorem prefix_of_notMem {c : Char} {next after more : List Char}
    (sub : next <+: after ++ c :: more) (free : c ∉ next) : next <+: after := by
  obtain within | ⟨others, rfl⟩ := List.prefix_or_prefix_of_prefix sub (List.prefix_append _ _)
  · exact within
  · cases others with
    | nil => simp
    | cons d rest =>
      obtain ⟨rfl, -⟩ := List.cons_prefix_cons.mp ((List.prefix_append_right_inj after).mp sub)
      simp at free

namespace Segment

/-- The segment has an end of its own, and not only that of the script. -/
def Closed : Segment → Prop
  | .openText _ => False
  | .openComment _ => False
  | _ => True

/-- A line break behind a segment with an end of its own leaves it as it is. -/
theorem Fits.lineFeed {s : Segment} {after : List Char} (fits : s.Fits after) (closed : s.Closed)
    (more : List Char) : s.Fits (after ++ '\n' :: more) := by
  cases fits with
  | token isLexeme ends =>
    refine .token isLexeme fun next sub extend => ?_
    exact ends next (prefix_of_notMem sub (extend.no_blank (by decide))) extend
  | blank isBlank => exact .blank isBlank
  | lineComment oneLine ends =>
    refine .lineComment oneLine fun c sub => ?_
    by_cases same : c = '\n'
    · exact same
    · exact ends c (prefix_of_notMem sub (by simpa using Ne.symm same))
  | blockComment closes => exact .blockComment closes
  | stray unexpected => exact .stray unexpected
  | openText noQuote => exact closed.elim
  | openComment noClosing => exact closed.elim

/-- Between two texts the line break is a segment of its own. -/
theorem Chain.joined {ss ss' : List Segment} (chain : Chain ss) (closed : ∀ s ∈ ss, s.Closed)
    (chain' : Chain ss') : Chain (ss ++ .blank '\n' :: ss') := by
  induction ss with
  | nil => exact ⟨.blank (by decide), chain'⟩
  | cons s rest ih =>
    obtain ⟨fits, chain⟩ := chain
    obtain ⟨first, others⟩ := List.forall_mem_cons.mp closed
    refine ⟨?_, ih chain others⟩
    simpa [text] using fits.lineFeed first (ss'.flatMap text)

theorem segments_joined {cs : List Char} (closed : ∀ s ∈ segments cs, s.Closed) (ds : List Char) :
    segments (cs ++ '\n' :: ds) = segments cs ++ .blank '\n' :: segments ds := by
  refine (eq_segments_iff.mpr ⟨?_, ?_⟩).symm
  · rw [List.flatMap_append, List.flatMap_cons, segments_text, segments_text]
    rfl
  · exact (chain_segments cs).joined closed (chain_segments ds)

end Segment

/-! ## 2. Scans -/

/-- A text or a comment of the script has no end of its own. -/
def Scan.LeftOpen (s : Scan) : Prop :=
  ∃ e ∈ s.errors, e.cause = .openText ∨ e.cause = .openComment

/-- A scan without errors has found the end of everything. -/
theorem Scan.ended_of_silent {s : Scan} (silent : s.errors = []) : ¬s.LeftOpen := by
  rintro ⟨e, mem, -⟩
  rw [silent] at mem
  cases mem

/-- The two faults that reach to the end of a script are the two that are named. -/
theorem Placed.closed_of_error? {p : Placed}
    (ended : ∀ e, p.error? = some e → ¬(e.cause = .openText ∨ e.cause = .openComment)) :
    p.segment.Closed := by
  obtain ⟨start, line, segment⟩ := p
  cases segment with
  | openText => exact ended _ rfl (.inl rfl)
  | openComment => exact ended _ rfl (.inr rfl)
  | _ => trivial

/-- If no text and no comment is left open, every segment has its own end. -/
theorem Scan.closed_of_ended {text : String} (ended : ¬(Scan.ofText text).LeftOpen) :
    ∀ s ∈ Segment.segments text.toList, s.Closed := by
  intro s mem
  rw [← Segment.place_segment (Segment.segments text.toList) 0 1] at mem
  obtain ⟨p, among, rfl⟩ := List.mem_map.mp mem
  refine Placed.closed_of_error? fun e found isOpen => ended ⟨e, ?_, isOpen⟩
  exact Scan.mem_errors.mpr ⟨p, among, found⟩

/-- The segments of the second text are moved by the first text and the line break. -/
theorem Scan.placed_joined {cs : List Char} (closed : ∀ s ∈ Segment.segments cs, s.Closed)
    (ds : List Char) :
    placed (cs ++ '\n' :: ds) =
      placed cs ++ { start := cs.length, line := 1 + cs.count '\n', segment := .blank '\n' } ::
        (placed ds).map (Placed.moved (cs.length + 1) (cs.count '\n' + 1)) := by
  have later := Segment.place_moved (cs.length + 1) (cs.count '\n' + 1) (Segment.segments ds) 0 1
  rw [placed, Segment.segments_joined closed, Segment.place_append, Segment.place,
    Segment.segments_text, placed, placed, ← later, Nat.zero_add, Nat.add_comm (cs.count '\n' + 1),
    ← Nat.add_assoc]
  rfl

/-- A script with nothing left open, a line break, and another script: what is found in the
one and what is found in the other, which has moved behind the first script and its line
break. -/
theorem Scan.ofText_joined {t : String} (ended : ¬(Scan.ofText t).LeftOpen) (u : String) :
    let moved := Token.moved (t.toList.length + 1) (t.toList.count '\n' + 1)
    let joined := Scan.ofText (t ++ "\n" ++ u)
    joined.body = (Scan.ofText t).body ++ (Scan.ofText u).body.map moved ∧
      joined.finish = moved (Scan.ofText u).finish ∧
      joined.errors = (Scan.ofText t).errors ++ (Scan.ofText u).errors.map
        (LexicalError.moved (t.toList.length + 1) (t.toList.count '\n' + 1)) := by
  have text : (t ++ "\n" ++ u).toList = t.toList ++ '\n' :: u.toList := by simp
  have placed := Scan.placed_joined (Scan.closed_of_ended ended) u.toList
  rw [← text] at placed
  refine ⟨?body, ?finish, ?errors⟩
  case body =>
    rw [Scan.body_ofText, placed, List.filterMap_append, List.filterMap_cons_none rfl,
      Placed.tokens_moved, ← Scan.body_ofText, ← Scan.body_ofText]
  case finish =>
    have count : (t ++ "\n" ++ u).toList.count '\n' =
        t.toList.count '\n' + 1 + u.toList.count '\n' := by
      rw [text, List.count_append, List.count_cons_self]
      omega
    have length : (t ++ "\n" ++ u).toList.length = t.toList.length + 1 + u.toList.length := by
      rw [text, List.length_append, List.length_cons]
      omega
    simp only [Scan.finish_ofText, Token.moved, count, length, Token.mk.injEq, true_and, and_true]
    omega
  case errors =>
    rw [Scan.errors_ofText, placed, List.filterMap_append, List.filterMap_cons_none rfl,
      Placed.errors_moved, ← Scan.errors_ofText, ← Scan.errors_ofText]

/-- What is found in two scripts, one on its own lines behind the other: nothing but what is
found in each. A script whose last text or comment is left open is no such first script,
since that would go on through the second. -/
theorem scans_joined (t u : String) (ended : ¬(Scan.ofText t).LeftOpen) :
    let offset := t.toList.length + 1
    let lines := t.toList.count '\n' + 1
    let joined := Scan.ofText (t ++ "\n" ++ u)
    joined.tokens = (Scan.ofText t).body ++ (Scan.ofText u).tokens.map (Token.moved offset lines) ∧
      ∀ r : Report, r.limit ≤ 0 →
        r.fileAll (joined.errors.map Issue.ofLexical) = .ok (r.adding
          ((Scan.ofText t).errors.map Issue.ofLexical ++
            ((Scan.ofText u).errors.map (LexicalError.moved offset lines)).map
              Issue.ofLexical)) := by
  obtain ⟨body, finish, errors⟩ := Scan.ofText_joined ended u
  refine ⟨?tokens, fun r unlimited => ?issues⟩
  case tokens =>
    rw [Scan.tokens, Scan.tokens, body, finish, List.map_append, List.append_assoc]
    rfl
  case issues =>
    rw [errors, List.map_append]
    exact Report.fileAll_of_unlimited unlimited _

def Token.slashAt (start : Nat) (line : Int) : Token :=
  { kind := .mark .slash, lexeme := "/", line, start }

/-- A slash at the end of a script is the sign of a division. -/
theorem segments_lone_slash : Segment.segments ['/'] = [.token (.mark .slash) ['/']] := by
  rw [Segment.segments_cons]
  show _ :: Segment.segments [] = _
  rw [Segment.segments_nil]
  rfl

theorem scan_lone_slash : Scan.ofText "/" =
    { body := [.slashAt 0 1], finish := { kind := .finish, lexeme := "", line := 1, start := 1 }
      errors := [] } := by
  have segments : Segment.segments "/".toList = [.token (.mark .slash) ['/']] :=
    segments_lone_slash
  rw [Scan.ofText_eq]
  simp only [Scan.placed, segments]
  rfl

/-- An error that ends by itself does not touch what comes after it. -/
theorem scan_stray_slash : Scan.ofText "@/" =
    { body := [.slashAt 1 1], finish := { kind := .finish, lexeme := "", line := 1, start := 2 }
      errors := [{ line := 1, start := 0, cause := .unexpected "@" }] } := by
  have segments : Segment.segments "@/".toList = [.stray '@', .token (.mark .slash) ['/']] := by
    show Segment.segments ['@', '/'] = _
    rw [Segment.segments_cons]
    show _ :: Segment.segments ['/'] = _
    rw [segments_lone_slash]
    rfl
  rw [Scan.ofText_eq]
  simp only [Scan.placed, segments]
  rfl

/-- A slash at the end of a script and one at the beginning of the next open no comment. -/
theorem scans_joined_slashes :
    ¬(Scan.ofText "@/").LeftOpen ∧
      (Scan.ofText ("@/" ++ "\n" ++ "/")).tokens =
        [.slashAt 1 1, .slashAt 3 2, { kind := .finish, lexeme := "", line := 2, start := 4 }] ∧
      Report.fileAll { limit := 0 }
          ((Scan.ofText ("@/" ++ "\n" ++ "/")).errors.map Issue.ofLexical) =
        .ok (Report.adding { limit := 0 }
          [Issue.ofLexical { line := 1, start := 0, cause := .unexpected "@" }]) := by
  have ended : ¬(Scan.ofText "@/").LeftOpen := by
    rw [scan_stray_slash]
    rintro ⟨e, mem, isOpen⟩
    obtain rfl := List.mem_singleton.mp mem
    simp at isOpen
  obtain ⟨tokens, filed⟩ := scans_joined "@/" "/" ended
  refine ⟨ended, ?_, ?_⟩
  · rw [tokens, scan_stray_slash, scan_lone_slash]
    rfl
  · rw [filed _ (by decide), scan_stray_slash, scan_lone_slash]
    rfl

end Scriptlet
