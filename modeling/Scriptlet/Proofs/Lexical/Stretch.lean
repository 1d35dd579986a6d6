/-
Scriptlet.Proofs.Lexical.Stretch — a stretch of a script, scanned on its own.

A segment is what it is because of what must not come right after it, so a script
may be cut off after any of its tokens, and begun anew before any. What is left
between the two has the segments that it had (`Placed.Tile.eq_moved`), and a scan of
it has the tokens and the errors between the two (`Scan.stretch`). Their places differ
by an offset and a number of lines, the same for all of them (`place_moved`).
-/
import Scriptlet.Proofs.Lexical.Cut

namespace Scriptlet

/-! ## 1. Places moved -/

/-- The token as it stands when so many characters and lines come before its text. -/
def Token.moved (offset lines : Nat) (t : Token) : Token :=
  { t with start := offset + t.start, line := lines + t.line }

def LexicalError.moved (offset lines : Nat) (e : LexicalError) : LexicalError :=
  { e with start := offset + e.start, line := lines + e.line }

def Placed.moved (offset lines : Nat) (p : Placed) : Placed :=
  { p with start := offset + p.start, line := lines + p.line }

namespace Placed

/-- A moved segment is the same token elsewhere. -/
theorem token?_moved (offset lines : Nat) (p : Placed) :
    (p.moved offset lines).token? = p.token?.map (Token.moved offset lines) := by
  cases p with
  | mk start line segment =>
    cases segment with
    | token kind lexeme => simp [token?, moved, Token.moved]
    | _ => rfl

theorem error?_moved (offset lines : Nat) (p : Placed) :
    (p.moved offset lines).error? = p.error?.map (LexicalError.moved offset lines) := by
  cases p with
  | mk start line segment => cases segment <;> simp [error?, moved, LexicalError.moved]

theorem tokens_moved (offset lines : Nat) (ps : List Placed) :
    (ps.map (moved offset lines)).filterMap token? =
      (ps.filterMap token?).map (Token.moved offset lines) := by
  rw [List.filterMap_map, List.map_filterMap]
  exact congrArg (ps.filterMap ·) (funext (token?_moved offset lines))

theorem errors_moved (offset lines : Nat) (ps : List Placed) :
    (ps.map (moved offset lines)).filterMap error? =
      (ps.filterMap error?).map (LexicalError.moved offset lines) := by
  rw [List.filterMap_map, List.map_filterMap]
  exact congrArg (ps.filterMap ·) (funext (error?_moved offset lines))

end Placed

namespace Segment

/-- Segments that start elsewhere are all moved by as much. -/
theorem place_moved (offset lines : Nat) (ss : List Segment) :
    ∀ start line, place (offset + start) (lines + line) ss =
      (place start line ss).map (Placed.moved offset lines) := by
  induction ss with
  | nil => exact fun _ _ => rfl
  | cons s rest ih =>
    intro start line
    rw [place, place, Nat.add_assoc, Nat.add_assoc, ih, List.map_cons]
    rfl

/-- To give segments places changes none of them. -/
theorem place_segment (ss : List Segment) :
    ∀ start line, (place start line ss).map Placed.segment = ss := by
  induction ss with
  | nil => exact fun _ _ => rfl
  | cons s rest ih =>
    intro start line
    rw [place, List.map_cons, ih]

end Segment

/-! ## 2. Segments between others -/

theorem Placed.Tile.of_append {start stop : Nat} {ps qs : List Placed}
    (tile : Tile start stop (ps ++ qs)) : ∃ mid, Tile start mid ps ∧ Tile mid stop qs := by
  induction ps generalizing start with
  | nil => exact ⟨start, rfl, tile⟩
  | cons p rest ih =>
    obtain ⟨starts, positive, tile⟩ := tile
    obtain ⟨mid, first, second⟩ := ih tile
    exact ⟨mid, ⟨starts, positive, first⟩, second⟩

/-- The first of the row starts where the tiling does. -/
theorem Placed.Tile.start_of_head? {start stop : Nat} {ps : List Placed}
    (tile : Tile start stop ps) {p : Placed} (first : ps.head? = some p) : p.start = start := by
  cases ps with
  | nil => cases first
  | cons q rest =>
    cases first
    exact tile.1

theorem Placed.Tile.stop_of_getLast? {start stop : Nat} {ps : List Placed}
    (tile : Tile start stop ps) {p : Placed} (last : ps.getLast? = some p) : p.stop = stop := by
  induction ps generalizing start with
  | nil => cases last
  | cons q rest ih =>
    obtain ⟨-, -, tile⟩ := tile
    cases rest with
    | nil =>
      cases last
      exact tile
    | cons q' rest => exact ih tile (by rwa [List.getLast?_cons_cons] at last)

/-! ## 3. Tokens between others -/

/-- From the first that counts on, with all before it left out. -/
theorem filterMap_trim {α β : Type} {f : α → Option β} {l : List α} {first : β}
    (head : (l.filterMap f).head? = some first) :
    ∃ gap rest a, l = gap ++ rest ∧ rest.filterMap f = l.filterMap f ∧
      rest.head? = some a ∧ f a = some first := by
  obtain ⟨others, whole⟩ := List.head?_eq_some_iff.mp head
  obtain ⟨gap, a, rest, rfl, none, found, later⟩ := List.filterMap_eq_cons_iff.mp whole
  refine ⟨gap, a :: rest, a, rfl, ?_, rfl, found⟩
  rw [whole, List.filterMap_cons_some found, later]

/-- Up to the last that counts, with all after it left out. -/
theorem filterMap_trim_right {α β : Type} {f : α → Option β} {l : List α} {last : β}
    (final : (l.filterMap f).getLast? = some last) :
    ∃ rest gap z, l = rest ++ gap ∧ rest.filterMap f = l.filterMap f ∧
      rest.getLast? = some z ∧ f z = some last := by
  rw [← List.head?_reverse, ← List.filterMap_reverse] at final
  obtain ⟨gap, rest, z, whole, same, head, found⟩ := filterMap_trim final
  refine ⟨rest.reverse, gap.reverse, z, ?_, ?_, ?_, found⟩
  · rw [← List.reverse_append, ← whole, List.reverse_reverse]
  · rw [List.filterMap_reverse, same, List.filterMap_reverse, List.reverse_reverse]
  · rwa [List.getLast?_reverse]

/-- What a row is mapped to, from its first to its last, is what a part of the row is
mapped to whose first and last are mapped to these. -/
theorem filterMap_stretch {α β : Type} {f : α → Option β} {l : List α}
    {before inside after : List β} (cut : l.filterMap f = before ++ inside ++ after)
    {first last : β} (head : inside.head? = some first) (final : inside.getLast? = some last) :
    ∃ l₁ mid l₂ a z, l = l₁ ++ mid ++ l₂ ∧ mid.filterMap f = inside ∧
      (mid.head? = some a ∧ f a = some first) ∧ mid.getLast? = some z ∧ f z = some last := by
  obtain ⟨upto, l₂, rfl, cut, -⟩ := List.filterMap_eq_append_iff.mp cut
  obtain ⟨l₁, mid, rfl, -, rfl⟩ := List.filterMap_eq_append_iff.mp cut
  obtain ⟨gap, mid, a, rfl, same, atFirst⟩ := filterMap_trim head
  rw [← same] at final
  obtain ⟨mid', gap', z, rfl, same', atLast⟩ := filterMap_trim_right final
  refine ⟨l₁ ++ gap, mid', gap' ++ l₂, a, z, ?_, same'.trans same, ?_, atLast⟩
  · simp only [List.append_assoc]
  · cases mid' with
    | nil => cases atLast.1
    | cons b rest => exact atFirst

theorem Placed.Tile.start_le {start stop : Nat} {ps : List Placed} (tile : Tile start stop ps) :
    ∀ p ∈ ps, start ≤ p.start := by
  induction ps generalizing start with
  | nil => exact List.forall_mem_nil _
  | cons p rest ih =>
    obtain ⟨rfl, positive, tile⟩ := tile
    refine List.forall_mem_cons.mpr ⟨Nat.le_refl _, fun q mem => ?_⟩
    exact Nat.le_trans (Nat.le_of_lt positive) (ih tile q mem)

/-- None starts before an earlier one has stopped. -/
theorem Placed.Tile.inOrder {start stop : Nat} {ps : List Placed} (tile : Tile start stop ps) :
    ps.Pairwise fun p q => p.stop ≤ q.start := by
  induction ps generalizing start with
  | nil => exact .nil
  | cons p rest ih =>
    obtain ⟨-, -, tile⟩ := tile
    exact .cons tile.start_le (ih tile)

/-- Each token of a scan stops before the next starts. -/
theorem Scan.body_inOrder (source : String) :
    (Scan.ofText source).body.Pairwise fun t u => t.stop ≤ u.start := by
  have cut : IsCut source.toList (Scan.placed source.toList) := isCut_iff.mpr rfl
  rw [Scan.body_ofText]
  refine List.pairwise_filterMap.mpr (cut.tile.inOrder.imp ?_)
  intro p q le t found u found'
  rw [(Placed.place_of_token? found).2, (Placed.place_of_token? found').1]
  exact le

/-- An error is reported where its segment starts. -/
theorem Placed.start_of_error? {p : Placed} {e : LexicalError} (found : p.error? = some e) :
    e.start = p.start := by
  obtain ⟨start, line, segment⟩ := p
  cases segment <;> cases found <;> rfl

theorem Placed.Tile.errors_within {start stop : Nat} {ps : List Placed}
    (tile : Tile start stop ps) : ∀ e ∈ ps.filterMap error?, start ≤ e.start ∧ e.start < stop := by
  intro e mem
  obtain ⟨p, among, found⟩ := List.mem_filterMap.mp mem
  obtain ⟨positive, inside⟩ := tile.bounds p among
  rw [Placed.start_of_error? found]
  exact ⟨tile.start_le p among, Nat.lt_of_lt_of_le positive inside⟩

/-- Segments that tile a stretch of a text and are what they should be there are those of
the stretch on its own, so many characters and lines later. -/
theorem Placed.Tile.eq_moved {cs : List Char} {start stop : Nat} {ps : List Placed}
    (tile : Tile start stop ps) (stands : ∀ p ∈ ps, p.Stands cs) :
    ps = (Scan.placed (slice cs start stop)).map
      (Placed.moved start ((cs.take start).count '\n')) := by
  obtain ⟨text, chain, places⟩ := tile.chain stands
  rw [Scan.placed, ← text, Segment.segments_of_chain chain, ← Segment.place_moved, Nat.add_zero,
    Nat.add_comm _ 1]
  exact places

/-- Some tokens of a script in a row, and the text from the first of them to the last on
its own: the segments of that text stand in the script with segments before and behind
them, so many characters and lines later, and the tokens among them are these tokens. -/
theorem Scan.placed_stretch {source : String} {before inside after : List Token}
    (cut : (Scan.ofText source).body = before ++ inside ++ after) {first last : Token}
    (head : inside.head? = some first) (final : inside.getLast? = some last) :
    ∃ ps mid qs, Scan.placed source.toList = ps ++ mid ++ qs ∧
      mid = (Scan.placed (slice source.toList first.start last.stop)).map
        (Placed.moved first.start ((source.toList.take first.start).count '\n')) ∧
      mid.filterMap Placed.token? = inside ∧
      Placed.Tile 0 first.start ps ∧ Placed.Tile first.start last.stop mid ∧
      Placed.Tile last.stop source.toList.length qs := by
  obtain ⟨ps, mid, qs, a, z, whole, same, ⟨atFirst, found⟩, atLast, found'⟩ :=
    filterMap_stretch (Scan.body_ofText source ▸ cut) head final
  have isCut : IsCut source.toList (Scan.placed source.toList) := isCut_iff.mpr rfl
  have tiles := isCut.tile
  rw [whole] at tiles
  obtain ⟨stop, upto, tileAfter⟩ := tiles.of_append
  obtain ⟨start, tileBefore, tile⟩ := upto.of_append
  -- The stretch is tiled from where its first token starts to where its last one stops.
  have starts : first.start = start := by
    rw [(Placed.place_of_token? found).1]
    exact tile.start_of_head? atFirst
  have stops : last.stop = stop := by
    rw [(Placed.place_of_token? found').2]
    exact tile.stop_of_getLast? atLast
  have stands : ∀ p ∈ mid, p.Stands source.toList := fun p mem =>
    isCut.stands p (by rw [whole]; simp [mem])
  rw [starts, stops]
  exact ⟨ps, mid, qs, whole, tile.eq_moved stands, same, tileBefore, tile, tileAfter⟩

/-- The error starts in the text from the one token to the other. -/
def LexicalError.isBetween (first last : Token) (e : LexicalError) : Bool :=
  first.start ≤ e.start && e.start < last.stop

/-- Both ends are offsets of the text, the second exclusive. -/
theorem LexicalError.isBetween_iff {first last : Token} {e : LexicalError} :
    e.isBetween first last = true ↔ first.start ≤ e.start ∧ e.start < last.stop := by
  rw [isBetween, Bool.and_eq_true, decide_eq_true_iff, decide_eq_true_iff]

/-- Some tokens of a script in a row, scanned on their own: the text from the first
of them to the last has these tokens and no others, and the errors that the script has
there, with their places moved back to where that text starts. -/
theorem Scan.stretch {source : String} {before inside after : List Token}
    (cut : (Scan.ofText source).body = before ++ inside ++ after) {first last : Token}
    (head : inside.head? = some first) (final : inside.getLast? = some last) :
    let piece := Scan.ofText (String.ofList (slice source.toList first.start last.stop))
    let lines := (source.toList.take first.start).count '\n'
    piece.body.map (Token.moved first.start lines) = inside ∧
      piece.errors.map (LexicalError.moved first.start lines) =
        (Scan.ofText source).errors.filter (LexicalError.isBetween first last) := by
  obtain ⟨ps, mid, qs, whole, moved, same, tileBefore, tile, tileAfter⟩ :=
    Scan.placed_stretch cut head final
  have none : (ps.filterMap Placed.error?).filter (LexicalError.isBetween first last) = [] :=
    List.filter_eq_nil_iff.mpr fun e mem between =>
      Nat.not_lt.mpr (LexicalError.isBetween_iff.mp between).1 (tileBefore.errors_within e mem).2
  have all : (mid.filterMap Placed.error?).filter (LexicalError.isBetween first last) =
      mid.filterMap Placed.error? :=
    List.filter_eq_self.mpr fun e mem => LexicalError.isBetween_iff.mpr (tile.errors_within e mem)
  have none' : (qs.filterMap Placed.error?).filter (LexicalError.isBetween first last) = [] :=
    List.filter_eq_nil_iff.mpr fun e mem between =>
      Nat.not_lt.mpr (tileAfter.errors_within e mem).1 (LexicalError.isBetween_iff.mp between).2
  constructor
  · rw [Scan.body_ofText, String.toList_ofList, ← Placed.tokens_moved, ← moved, same]
  · rw [Scan.errors_ofText, Scan.errors_ofText, whole, String.toList_ofList, ← Placed.errors_moved, ← moved, List.filterMap_append,
      List.filterMap_append, List.filter_append, List.filter_append, none, all, none',
      List.nil_append, List.append_nil]

end Scriptlet
