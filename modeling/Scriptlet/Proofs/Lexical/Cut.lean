/-
Scriptlet.Proofs.Lexical.Cut — a scan loses nothing, repeats nothing, and takes
the longest tokens.

`IsCut` says of segments at their places that they are a text cut up: one follows
the other without a gap, from the first character to the last, and each is what
it should be where it stands. A text has one cut (`isCut_iff`), and the tokens
and errors of a scan are those of its segments, in order.
-/
import Scriptlet.Proofs.Lexical.Counting
import Scriptlet.Proofs.Lexical.Longest
import Scriptlet.Proofs.Session.Filing

namespace Scriptlet

def slice (cs : List Char) (start stop : Nat) : List Char := (cs.drop start).take (stop - start)

/-- The line that an offset is on: one more than the line feeds before it. -/
def lineAt (cs : List Char) (offset : Nat) : Nat := 1 + (cs.take offset).count '\n'

/-! ## 1. Cuts -/

namespace Placed

def stop (p : Placed) : Nat := p.start + p.segment.text.length

/-- From one offset to another, each starts where the one before it stops, and none
is empty. -/
def Tile : (start stop : Nat) → List Placed → Prop
  | start, stop, [] => start = stop
  | start, stop, p :: rest => p.start = start ∧ p.start < p.stop ∧ Tile p.stop stop rest

/-- The segment is the text at its place, is what it should be there, and is on its line. -/
structure Stands (cs : List Char) (p : Placed) : Prop where
  text : p.segment.text = slice cs p.start p.stop
  fits : p.segment.Fits (cs.drop p.stop)
  line : p.line = lineAt cs p.start

end Placed

/-- The segments are the text, cut up. -/
structure IsCut (cs : List Char) (ps : List Placed) : Prop where
  tile : Placed.Tile 0 cs.length ps
  stands : ∀ p ∈ ps, p.Stands cs

/-! ## 2. Segments at their places -/

namespace Segment

/-- The later segments start where the earlier ones have ended. -/
theorem place_append (start line : Nat) (ss ss' : List Segment) :
    place start line (ss ++ ss') =
      place start line ss ++
        place (start + (ss.flatMap text).length) (line + (ss.flatMap text).count '\n') ss' := by
  induction ss generalizing start line with
  | nil => rfl
  | cons s rest ih =>
    rw [List.cons_append, place, ih, place, List.cons_append, List.flatMap_cons,
      List.length_append, List.count_append, Nat.add_assoc, Nat.add_assoc, lineFeeds]

theorem Fits.text_ne_nil {s : Segment} {after : List Char} (fits : s.Fits after) :
    s.text ≠ [] := by
  cases fits with
  | token isLexeme ends => exact isLexeme.ne_nil
  | _ => exact List.cons_ne_nil _ _

/-- The segments of a text at their places, after what stands before that text. -/
theorem stands_place (before : List Char) {ss : List Segment} (chain : Chain ss) :
    ∀ p ∈ place before.length (1 + before.count '\n') ss,
      p.Stands (before ++ ss.flatMap text) := by
  induction ss generalizing before with
  | nil => exact List.forall_mem_nil _
  | cons s rest ih =>
    obtain ⟨fits, chain⟩ := chain
    have later := ih (before ++ s.text) chain
    rw [List.length_append, List.count_append, ← Nat.add_assoc, List.append_assoc] at later
    refine List.forall_mem_cons.mpr ⟨⟨?_, ?_, ?_⟩, later⟩
    · simp [slice, Placed.stop]
    · simpa [Placed.stop] using fits
    · simp [lineAt]

/-- Segments one after the other leave no gap. -/
theorem tile_place (start line : Nat) {ss : List Segment} (chain : Chain ss) :
    Placed.Tile start (start + (ss.flatMap text).length) (place start line ss) := by
  induction ss generalizing start line with
  | nil => rfl
  | cons s rest ih =>
    refine ⟨rfl, ?_, ?_⟩
    · exact Nat.lt_add_of_pos_right (List.length_pos_iff.mpr chain.1.text_ne_nil)
    · rw [List.flatMap_cons, List.length_append, ← Nat.add_assoc]
      exact ih _ _ chain.2

end Segment

theorem Placed.Tile.le {start stop : Nat} {ps : List Placed} (tile : Tile start stop ps) :
    start ≤ stop := by
  induction ps generalizing start with
  | nil => exact Nat.le_of_eq tile
  | cons p rest ih =>
    obtain ⟨rfl, positive, tile⟩ := tile
    exact Nat.le_trans (Nat.le_of_lt positive) (ih tile)

/-- From one offset on: up to another, and from there. -/
theorem drop_eq_slice_append (cs : List Char) {start stop : Nat} (le : start ≤ stop) :
    cs.drop start = slice cs start stop ++ cs.drop stop := by
  have whole := List.take_append_drop (stop - start) (cs.drop start)
  rw [List.drop_drop, Nat.add_sub_cancel' le] at whole
  exact whole.symm

/-- The line of a later offset is counted on from that of an earlier one. -/
theorem lineAt_eq_add {cs : List Char} {start stop : Nat} (le : start ≤ stop) :
    lineAt cs stop = lineAt cs start + (slice cs start stop).count '\n' := by
  have whole : cs.take stop = cs.take start ++ slice cs start stop := by
    rw [slice, ← List.take_add, Nat.add_sub_cancel' le]
  rw [lineAt, whole, List.count_append, ← Nat.add_assoc, lineAt]

theorem slice_append (cs : List Char) {start mid stop : Nat} (le : start ≤ mid) (le' : mid ≤ stop) :
    slice cs start mid ++ slice cs mid stop = slice cs start stop := by
  have lengths : stop - start = (mid - start) + (stop - mid) := by omega
  rw [slice, slice, slice, lengths, List.take_add, List.drop_drop, Nat.add_sub_cancel' le]

/-- Segments that tile a stretch of a text make it up, each fits before those after
it, and they are at the places of their texts. -/
theorem Placed.Tile.chain {cs : List Char} {start stop : Nat} {ps : List Placed}
    (tile : Tile start stop ps) (stands : ∀ p ∈ ps, p.Stands cs) :
    (ps.map Placed.segment).flatMap Segment.text = slice cs start stop ∧
      Segment.Chain (ps.map Placed.segment) ∧
      ps = Segment.place start (lineAt cs start) (ps.map Placed.segment) := by
  induction ps generalizing start with
  | nil =>
    cases tile
    refine ⟨?_, trivial, rfl⟩
    rw [slice, Nat.sub_self]
    rfl
  | cons p rest ih =>
    obtain ⟨rfl, positive, tile⟩ := tile
    obtain ⟨⟨text, fits, line⟩, stands⟩ := List.forall_mem_cons.mp stands
    obtain ⟨whole, chain, places⟩ := ih tile stands
    refine ⟨?_, ⟨?_, chain⟩, ?_⟩
    · rw [List.map_cons, List.flatMap_cons, whole, text,
        slice_append cs (Nat.le_of_lt positive) tile.le]
    · rw [whole]
      exact fits.of_prefix (List.take_prefix _ _)
    · have next : lineAt cs p.stop = lineAt cs p.start + p.segment.lineFeeds := by
        rw [lineAt_eq_add (Nat.le_of_lt positive), Segment.lineFeeds, text]
      rw [next, Placed.stop] at places
      rw [List.map_cons, Segment.place, ← places, ← line]

/-- The cut of a text is the list of its segments at their places. -/
theorem isCut_iff {cs : List Char} {ps : List Placed} : IsCut cs ps ↔ ps = Scan.placed cs := by
  constructor
  · rintro ⟨tile, stands⟩
    obtain ⟨whole, chain, places⟩ := tile.chain stands
    rw [slice, List.drop_zero, Nat.sub_zero, List.take_length] at whole
    rw [Scan.placed, ← Segment.eq_segments_iff.mpr ⟨whole, chain⟩]
    exact places
  · rintro rfl
    have chain := Segment.chain_segments cs
    have tile := Segment.tile_place 0 1 chain
    have stands := Segment.stands_place [] chain
    rw [Segment.segments_text] at tile stands
    rw [Nat.zero_add] at tile
    exact ⟨tile, stands⟩

/-! ## 3. Tokens at their places -/

/-- The token is the text at its place and on its line, it carries what it says, and
no token that starts there is longer. -/
structure Token.Exact (cs : List Char) (t : Token) : Prop where
  inside : t.start < t.stop ∧ t.stop ≤ cs.length
  text : t.lexeme.toList = slice cs t.start t.stop
  line : t.line = lineAt cs t.start
  isLexeme : Lexeme t.kind t.lexeme.toList
  payload : t.payload = t.kind.payload t.lexeme.toList
  ends : Lexeme.EndsBefore t.kind t.lexeme.toList (cs.drop t.stop)
  longest : ∀ kind lexeme, Lexeme kind lexeme → lexeme <+: cs.drop t.start →
    lexeme.length ≤ t.lexeme.toList.length

/-- No segment of a tiling is empty, and none goes past its end. -/
theorem Placed.Tile.bounds {start stop : Nat} {ps : List Placed} (tile : Tile start stop ps) :
    ∀ p ∈ ps, p.start < p.stop ∧ p.stop ≤ stop := by
  induction ps generalizing start with
  | nil => exact List.forall_mem_nil _
  | cons p rest ih =>
    obtain ⟨-, positive, tile⟩ := tile
    exact List.forall_mem_cons.mpr ⟨⟨positive, tile.le⟩, ih tile⟩

/-- A token is its segment, with the place of that. -/
theorem Placed.token?_eq_some {p : Placed} {t : Token} (found : p.token? = some t) :
    ∃ kind lexeme, p.segment = .token kind lexeme ∧
      t = { kind, lexeme := String.ofList lexeme, line := p.line
            payload := kind.payload lexeme, start := p.start } := by
  rw [token?] at found
  split at found
  · next kind lexeme isToken =>
    cases found
    exact ⟨kind, lexeme, isToken, rfl⟩
  · cases found

theorem Placed.place_of_token? {p : Placed} {t : Token} (found : p.token? = some t) :
    t.start = p.start ∧ t.stop = p.stop := by
  obtain ⟨kind, lexeme, isToken, rfl⟩ := token?_eq_some found
  refine ⟨rfl, ?_⟩
  rw [Token.stop, stop, isToken, String.length_ofList]
  rfl

/-- The token of a segment of a cut is exact. -/
theorem IsCut.exact {cs : List Char} {ps : List Placed} (cut : IsCut cs ps) {p : Placed}
    (mem : p ∈ ps) {t : Token} (found : p.token? = some t) : t.Exact cs := by
  obtain ⟨-, stop⟩ := Placed.place_of_token? found
  obtain ⟨kind, lexeme, isToken, rfl⟩ := Placed.token?_eq_some found
  obtain ⟨text, fits, line⟩ := cut.stands p mem
  obtain ⟨positive, inside⟩ := cut.tile.bounds p mem
  have after := drop_eq_slice_append cs (Nat.le_of_lt positive)
  rw [isToken] at text fits
  cases fits with
  | token isLexeme ends =>
    refine ⟨?_, ?_, ?_, ?_, ?_, ?_, ?_⟩
    · rw [stop]
      exact ⟨positive, inside⟩
    · rw [stop, String.toList_ofList]
      exact text
    · exact congrArg Int.ofNat line
    · rwa [String.toList_ofList]
    · rw [String.toList_ofList]
    · rwa [stop, String.toList_ofList]
    · intro kind' lexeme' other starts
      rw [after, ← text] at starts
      rw [String.toList_ofList]
      exact (isLexeme.longest ends other starts).length_le

/-! ## 4. Scans -/

/-- A script is cut into segments in the one way there is. Its tokens are those of
the segments, in order, with the end marker after the last character, and each is
the longest there; and a report without a limit gets one issue for each segment
that is a fault, in order, and no other. -/
theorem scan_cuts (r : Report) (unlimited : r.limit ≤ 0) (source : String) :
    ∃ ps, (∀ ps', IsCut source.toList ps' ↔ ps' = ps) ∧
      (Scan.ofText source).body = ps.filterMap Placed.token? ∧
      (Scan.ofText source).finish =
        { kind := .finish, lexeme := "", line := lineAt source.toList source.toList.length
          start := source.toList.length } ∧
      (∀ t ∈ (Scan.ofText source).body, t.Exact source.toList) ∧
      r.fileAll ((Scan.ofText source).errors.map Issue.ofLexical) =
        .ok (r.adding ((ps.filterMap Placed.error?).map Issue.ofLexical)) := by
  have cut : IsCut source.toList (Scan.placed source.toList) := isCut_iff.mpr rfl
  refine ⟨Scan.placed source.toList, fun ps' => isCut_iff, Scan.body_ofText source, ?_, ?_, ?_⟩
  · rw [Scan.finish_ofText, lineAt, List.take_length]
    rfl
  · intro t mem
    obtain ⟨p, among, found⟩ := Scan.mem_body.mp mem
    exact cut.exact among found
  · rw [Scan.errors_ofText]
    exact Report.fileAll_of_unlimited unlimited _

/-- The segments of `12.` with a stray character and an open comment on the next line. -/
def faultySegments : List Placed :=
  [{ start := 0, line := 1, segment := .token .number ['1', '2'] },
   { start := 2, line := 1, segment := .token (.mark .dot) ['.'] },
   { start := 3, line := 1, segment := .blank '\n' },
   { start := 4, line := 2, segment := .stray '@' },
   { start := 5, line := 2, segment := .openComment ['/', '*'] }]

/-- The segments are cut in the one way there is. -/
theorem isCut_faultySegments : IsCut "12.\n@/*".toList faultySegments := by
  have whole : "12.\n@/*".toList = ['1', '2', '.', '\n', '@', '/', '*'] := rfl
  have number : Lexeme.EndsBefore .number ['1', '2'] ['.', '\n', '@', '/', '*'] := by
    rintro next ⟨rest, whole⟩ extend
    obtain ⟨d, rfl, digit⟩ | ⟨-, d, rfl, digit⟩ := extend
    · cases whole
      cases digit
    · cases whole
      cases digit
  have stray : Segment.Unexpected '@' :=
    Segment.unexpected_of_next (by decide) (by decide) (by decide) (by decide) (by decide)
      (by decide) (by decide)
  have notClosed : ¬Segment.closing <:+: [] := fun closed => by cases List.infix_nil.mp closed
  have tile : Placed.Tile 0 7 faultySegments :=
    ⟨rfl, by decide, rfl, by decide, rfl, by decide, rfl, by decide, rfl, by decide, rfl⟩
  rw [whole]
  refine ⟨tile, ?_⟩
  simp only [faultySegments, List.forall_mem_cons]
  refine ⟨⟨rfl, ?_, rfl⟩, ⟨rfl, ?_, rfl⟩, ⟨rfl, ?_, rfl⟩, ⟨rfl, ?_, rfl⟩, ⟨rfl, ?_, rfl⟩,
    List.forall_mem_nil _⟩
  · exact .token (.whole ⟨List.cons_ne_nil _ _, List.all_eq_true.mp rfl⟩) number
  · exact .token (.mark .dot) fun _ _ => id
  · exact .blank (by decide)
  · exact .stray stray
  · exact .openComment notClosed

/-- The point is no part of the number, and the report has two issues on line 2. -/
theorem scan_cuts_faulty :
    ({ limit := 0 } : Report).limit ≤ 0 ∧
      (Scan.ofText "12.\n@/*").body.map (fun t => (t.kind, t.start, t.stop, t.line)) =
        [(.number, 0, 2, 1), (.mark .dot, 2, 3, 1)] ∧
      ({ limit := 0 } : Report).fileAll ((Scan.ofText "12.\n@/*").errors.map Issue.ofLexical) =
        .ok (Report.adding { limit := 0 }
          [Issue.ofLexical { line := 2, start := 4, cause := .unexpected "@" },
           Issue.ofLexical { line := 2, start := 5, cause := .openComment }]) := by
  have unlimited : ({ limit := 0 } : Report).limit ≤ 0 := by decide
  obtain ⟨ps, only, body, -, -, filed⟩ := scan_cuts { limit := 0 } unlimited "12.\n@/*"
  obtain rfl := (only _).mp isCut_faultySegments
  refine ⟨unlimited, ?_, ?_⟩
  · rw [body]
    rfl
  · rw [filed]
    rfl

end Scriptlet
