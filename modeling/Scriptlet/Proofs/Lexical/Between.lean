/-
Scriptlet.Proofs.Lexical.Between — what is scanned between two tokens of a script.

The state of a scan at the start of a token is its offset and its line, and nothing that
comes after a token changes it. So the text from one token of a script to another has on
its own just the tokens from the one to the other and the errors between them. It is a
text that begins with the first of them, which is on its first line: every offset is
lower by that token's offset, and every line by the lines before that token's
(`Token.since`).
-/
import Scriptlet.Proofs.Lexical.Joined
import Scriptlet.Proofs.Session.Positions

namespace Scriptlet

/-- The token as it stands in a text that begins with the token `first`. -/
def Token.since (first t : Token) : Token :=
  { t with start := t.start - first.start, line := t.line - (first.line - 1) }

def LexicalError.since (first : Token) (e : LexicalError) : LexicalError :=
  { e with start := e.start - first.start, line := e.line - (first.line - 1) }

section

variable {first : Token} {lines : Nat}

/-- To take away what was put in front gives the tokens back. -/
theorem Token.map_since_moved (line : first.line = 1 + lines) (ts : List Token) :
    (ts.map (moved first.start lines)).map (since first) = ts := by
  rw [List.map_map]
  refine List.map_id'' (fun t => ?_) ts
  have sameLine : (lines : Int) + t.line - (first.line - 1) = t.line := by omega
  rw [Function.comp_apply, since, moved, Nat.add_sub_cancel_left, sameLine]

theorem LexicalError.map_since_moved (line : first.line = 1 + lines) (es : List LexicalError) :
    (es.map (moved first.start lines)).map (since first) = es := by
  rw [List.map_map]
  refine List.map_id'' (fun e => ?_) es
  have sameLine : (lines : Int) + e.line - (first.line - 1) = e.line := by omega
  rw [Function.comp_apply, since, moved, Nat.add_sub_cancel_left, sameLine]

end

/-- A text is what is before the slice, the slice, and what is after it. -/
theorem eq_take_extract_drop {α : Type} (l : List α) {i j : Nat} (le : i ≤ j) :
    l = l.take i ++ l.extract i (j + 1) ++ l.drop (j + 1) := by
  have upto : l.take i ++ l.extract i (j + 1) = l.take (j + 1) := by
    rw [List.extract_eq_take_drop, ← List.take_add, Nat.add_sub_cancel' (by omega)]
  rw [upto, List.take_append_drop]

/-- The end marker of the text from a token on up to an offset is the one that stood there
if the script ended there. -/
theorem Scan.finish_slice {cs : List Char} {first : Token} {stop : Nat}
    (line : first.line = lineAt cs first.start) (le : first.start ≤ stop)
    (inside : stop ≤ cs.length) :
    (Scan.ofText (String.ofList (slice cs first.start stop))).finish =
      .since first { kind := .finish, lexeme := "", line := lineAt cs stop, start := stop } := by
  have length : (slice cs first.start stop).length = stop - first.start := by
    rw [slice, List.length_take, List.length_drop]
    omega
  have sameLine : (1 + (slice cs first.start stop).count '\n' : Int) =
      lineAt cs stop - (first.line - 1) := by
    rw [line, lineAt_eq_add le]
    omega
  rw [Scan.ofText_eq, String.toList_ofList, length]
  simp only [Token.since, sameLine]

/-- The text from one token of a script to another, both included, has on its own the tokens
from the one to the other and then the end marker; and a report without a limit gets the
issues that it gets about the script between the two, and no others. All offsets and lines
are those of a text that begins with the first of these tokens. -/
theorem scan_between (text : String) {i j : Nat} (le : i ≤ j) {first last : Token}
    (isFirst : (Scan.ofText text).body[i]? = some first)
    (isLast : (Scan.ofText text).body[j]? = some last) (r : Report) (unlimited : r.limit ≤ 0) :
    let alone := Scan.ofText (String.ofList (slice text.toList first.start last.stop))
    let finish : Token :=
      { kind := .finish, lexeme := "", line := lineAt text.toList last.stop, start := last.stop }
    let between := (Scan.ofText text).errors.filter (LexicalError.isBetween first last)
    alone.tokens =
        ((Scan.ofText text).body.extract i (j + 1)).map (Token.since first) ++
          [.since first finish] ∧
      r.fileAll (alone.errors.map Issue.ofLexical) =
        .ok (r.adding ((between.map (LexicalError.since first)).map Issue.ofLexical)) := by
  have cut := eq_take_extract_drop (Scan.ofText text).body le
  have head : ((Scan.ofText text).body.extract i (j + 1)).head? = some first := by
    rw [List.extract_eq_take_drop, List.head?_take, if_neg (by omega), List.head?_drop, isFirst]
  have final : ((Scan.ofText text).body.extract i (j + 1)).getLast? = some last := by
    rw [List.extract_eq_take_drop, List.getLast?_take, if_neg (by omega), List.getElem?_drop,
      show i + (j + 1 - i - 1) = j by omega, isLast, Option.some_or]
  obtain ⟨tokens, errors⟩ := Scan.stretch cut head final
  have firstLine := (Scan.exact_of_mem (List.mem_of_getElem? isFirst)).line
  have inside := (Scan.exact_of_mem (List.mem_of_getElem? isLast)).inside
  have ordered : first.start ≤ last.stop := by
    have row := (Scan.row text).within ⟨_, _, cut.symm⟩
    exact Nat.le_trans (row.start_le head _ (List.mem_of_getLast? final)) (Nat.le_of_lt inside.1)
  intro alone finish between
  constructor
  · rw [Scan.tokens, Scan.finish_slice firstLine ordered inside.2, ← tokens,
      Token.map_since_moved firstLine]
  · have moved : between = alone.errors.map _ := errors.symm
    rw [Report.fileAll_of_unlimited unlimited, moved, LexicalError.map_since_moved firstLine]

def Token.pointAt (start : Nat) (line : Int) : Token :=
  { kind := .mark .dot, lexeme := ".", line, start }

/-- The text from the point on the second line to the slash on the third has a stray character
between the two, and nothing of the number before. -/
theorem scan_between_lines :
    (Scan.ofText "1\n.@\n/#").body[1]? = some (.pointAt 2 2) ∧
      (Scan.ofText "1\n.@\n/#").body[2]? = some (.slashAt 5 3) ∧
      (Scan.ofText ".@\n/").tokens =
        [.pointAt 0 1, .slashAt 3 2, { kind := .finish, lexeme := "", line := 2, start := 4 }] ∧
      Report.fileAll { limit := 0 } ((Scan.ofText ".@\n/").errors.map Issue.ofLexical) =
        .ok (Report.adding { limit := 0 }
          [Issue.ofLexical { line := 1, start := 1, cause := .unexpected "@" }]) := by
  have isFirst : (Scan.ofText "1\n.@\n/#").body[1]? = some (.pointAt 2 2) := by decide +kernel
  have isLast : (Scan.ofText "1\n.@\n/#").body[2]? = some (.slashAt 5 3) := by decide +kernel
  have stretch : String.ofList (slice "1\n.@\n/#".toList 2 6) = ".@\n/" := by decide +kernel
  have tokens : ((Scan.ofText "1\n.@\n/#").body.extract 1 3).map (Token.since (.pointAt 2 2)) =
      [.pointAt 0 1, .slashAt 3 2] := by decide +kernel
  have errors : ((Scan.ofText "1\n.@\n/#").errors.filter
        (LexicalError.isBetween (.pointAt 2 2) (.slashAt 5 3))).map
          (LexicalError.since (.pointAt 2 2)) =
      [{ line := 1, start := 1, cause := .unexpected "@" }] := by decide +kernel
  obtain ⟨scanned, filed⟩ :=
    scan_between "1\n.@\n/#" (by decide) isFirst isLast { limit := 0 } (by decide)
  refine ⟨isFirst, isLast, ?_, ?_⟩
  · rw [← stretch]
    exact scanned.trans (by rw [tokens]; rfl)
  · rw [← stretch]
    exact filed.trans (by rw [errors]; rfl)

end Scriptlet
