/-
Scriptlet.Proofs.Lexical.Respaced — the tokens of a script, written again.

A gap is what a script may have before, between and after its tokens: blanks and
comments that are over. It has no tokens and no errors, whatever comes after it
(`Holds.behind_gap`), and no token goes on with a blank. So the tokens of a script, written in a
row with a gap behind each that begins with a blank, are scanned as these tokens
(`scan_respaced`). The errors of the script do not matter, since nothing is written of them.
-/
import Scriptlet.Proofs.Lexical.Joined
import Scriptlet.Proofs.Session.Positions

namespace Scriptlet

open Segment (segments)

/-! ## 1. Gaps -/

/-- Blanks, block comments and whole lines of comment. -/
inductive Gap : List Char → Prop
  | none : Gap []
  | blank {b : Char} {rest : List Char} (isBlank : b ∈ [' ', '\t', '\r', '\n']) (gap : Gap rest) :
      Gap (b :: rest)
  | lineComment {body rest : List Char} (oneLine : '\n' ∉ body) (gap : Gap rest) :
      Gap ('/' :: '/' :: body ++ '\n' :: rest)
  | blockComment {body rest : List Char} (noClosing : ¬Segment.closing <:+: body)
      (gap : Gap rest) : Gap ('/' :: '*' :: (body ++ Segment.closing) ++ rest)

/-- These tokens in a row, each with a gap behind it that begins with a blank. Behind the
last there may be nothing. -/
inductive Respaced : List Token → List Char → Prop
  | none : Respaced [] []
  | last (t : Token) : Respaced [t] t.lexeme.toList
  | apart {b : Char} {gap rest : List Char} {ts : List Token} (t : Token)
      (isBlank : b ∈ [' ', '\t', '\r', '\n']) (isGap : Gap gap) (more : Respaced ts rest) :
      Respaced (t :: ts) (t.lexeme.toList ++ b :: (gap ++ rest))

/-! ## 2. What a text holds -/

def Token.content (t : Token) : Token.Kind × String × Value := (t.kind, t.lexeme, t.payload)

namespace Segment

def content? : Segment → Option (Token.Kind × String × Value)
  | .token kind lexeme => some (kind, String.ofList lexeme, kind.payload lexeme)
  | _ => none

def Sound : Segment → Prop
  | .token _ _ => True
  | .blank _ => True
  | .comment _ => True
  | _ => False

/-- The text has no faults, and tokens with these contents. -/
structure Holds (cs : List Char) (contents : List (Token.Kind × String × Value)) : Prop where
  sound : ∀ s ∈ segments cs, s.Sound
  contents : (segments cs).filterMap content? = contents

section

variable {after : List Char} {contents : List (Token.Kind × String × Value)}

theorem holds_nil : Holds [] [] := by
  refine ⟨?_, ?_⟩
  · rw [segments_nil]
    exact List.forall_mem_nil _
  · rw [segments_nil]
    rfl

/-- A sound segment in front of a text that holds these contents. -/
theorem Holds.behind {s : Segment} (fits : s.Fits after) (sound : s.Sound)
    (holds : Holds after contents) :
    Holds (s.text ++ after) (s.content?.toList ++ contents) := by
  refine ⟨?_, ?_⟩
  · rw [fits.segments_append]
    exact List.forall_mem_cons.mpr ⟨sound, holds.sound⟩
  · rw [fits.segments_append, List.filterMap_cons, holds.contents]
    cases s.content? <;> rfl

/-- A comment is over with the first sign that closes one. -/
theorem closes_of_noClosing {body : List Char} (noClosing : ¬closing <:+: body) :
    Closes (body ++ closing) := by
  refine ⟨List.suffix_append _ _, fun before after whole => ?_⟩
  obtain ⟨more, same, -⟩ | ⟨more, same, rest⟩ := List.append_eq_append_iff.mp whole
  · exact absurd ⟨before, more, same.symm⟩ noClosing
  · -- What is found ends with none of the last sign, with its star, or with all of it.
    cases more with
    | nil =>
      rw [List.append_nil] at same
      exact absurd ⟨before, [], by rw [List.append_nil, same]⟩ noClosing
    | cons c more =>
      obtain ⟨rfl, tail⟩ := List.cons.inj rest
      cases more with
      | nil =>
        have last := congrArg List.getLast? same
        simp [closing] at last
      | cons d more =>
        obtain ⟨-, none⟩ := List.cons.inj tail
        exact (List.append_eq_nil_iff.mp none.symm).2

/-- A gap in front of a text changes nothing of what the text holds. -/
theorem Holds.behind_gap {gap : List Char} (isGap : Gap gap) (holds : Holds after contents) :
    Holds (gap ++ after) contents := by
  induction isGap with
  | none => exact holds
  | blank isBlank gap ih => exact ih.behind (.blank isBlank) trivial
  | @lineComment body rest oneLine gap ih =>
    have lineEnd : ∀ c, [c] <+: '\n' :: (rest ++ after) → c = '\n' := fun c first =>
      (List.cons_prefix_cons.mp first).1
    have blank : Holds ('\n' :: (rest ++ after)) contents := ih.behind (.blank (by decide)) trivial
    rw [List.append_assoc]
    exact blank.behind (.lineComment oneLine lineEnd) trivial
  | blockComment noClosing gap ih =>
    rw [List.append_assoc]
    exact ih.behind (.blockComment (closes_of_noClosing noClosing)) trivial

/-- A token in front, when nothing that follows makes something else of it. -/
theorem Holds.behind_token {t : Token} (isLexeme : Lexeme t.kind t.lexeme.toList)
    (payload : t.payload = t.kind.payload t.lexeme.toList)
    (ends : Lexeme.EndsBefore t.kind t.lexeme.toList after) (holds : Holds after contents) :
    Holds (t.lexeme.toList ++ after) (t.content :: contents) := by
  have both := holds.behind (.token isLexeme ends) trivial
  rwa [content?, ← payload, String.ofList_toList] at both

end

end Segment

theorem Lexeme.endsBefore_blank {kind : Token.Kind} {lexeme : List Char} {b : Char}
    (isBlank : b ∈ [' ', '\t', '\r', '\n']) (after : List Char) :
    EndsBefore kind lexeme (b :: after) := by
  intro next first extend
  have nothing : next <+: [] := prefix_of_notMem first (extend.no_blank isBlank)
  exact extend.ne_nil (List.prefix_nil.mp nothing)

/-- Tokens written down with gaps between them are found again: by induction on the tokens, from
the last. -/
theorem Respaced.holds {ts : List Token} {cs : List Char} (written : Respaced ts cs)
    (isLexeme : ∀ t ∈ ts, Lexeme t.kind t.lexeme.toList)
    (payload : ∀ t ∈ ts, t.payload = t.kind.payload t.lexeme.toList) :
    Segment.Holds cs (ts.map Token.content) := by
  induction written with
  | none => exact Segment.holds_nil
  | last t =>
    have alone := Segment.holds_nil.behind_token (isLexeme t List.mem_cons_self)
      (payload t List.mem_cons_self) (Lexeme.endsBefore_nil _ _)
    rwa [List.append_nil] at alone
  | apart t isBlank isGap more ih =>
    obtain ⟨firstIs, restAre⟩ := List.forall_mem_cons.mp isLexeme
    obtain ⟨firstCarries, restCarry⟩ := List.forall_mem_cons.mp payload
    have gap := (ih restAre restCarry).behind_gap (.blank isBlank isGap)
    exact gap.behind_token firstIs firstCarries (Lexeme.endsBefore_blank isBlank _)

/-! ## 3. Scans -/

/-- What a token is does not depend on its place. -/
theorem Placed.content_token? (p : Placed) :
    p.token?.map Token.content = p.segment.content? := by
  obtain ⟨start, line, segment⟩ := p
  cases segment <;> rfl

theorem Placed.error?_of_sound {p : Placed} (sound : p.segment.Sound) : p.error? = none := by
  obtain ⟨start, line, segment⟩ := p
  cases segment with
  | token | blank | comment => rfl
  | stray | openText | openComment => exact sound.elim

theorem Scan.of_holds {cs : List Char} {contents : List (Token.Kind × String × Value)}
    (holds : Segment.Holds cs contents) :
    (Scan.ofText (String.ofList cs)).errors = [] ∧
      (Scan.ofText (String.ofList cs)).body.map Token.content = contents := by
  have placed : (Scan.placed cs).map Placed.segment = segments cs := Segment.place_segment _ _ _
  rw [Scan.ofText_eq, String.toList_ofList]
  refine ⟨List.filterMap_eq_nil_iff.mpr fun p mem => ?_, ?_⟩
  · refine Placed.error?_of_sound (holds.sound _ ?_)
    rw [← placed]
    exact List.mem_map_of_mem mem
  · rw [← holds.contents, ← placed, List.filterMap_map, List.map_filterMap]
    exact congrArg (List.filterMap · _) (funext Placed.content_token?)

/-- The tokens of a script, written again with other gaps, are scanned as the same tokens in
other places, and nothing else is found. -/
theorem scan_respaced (text : String) {lead cs : List Char} (gap : Gap lead)
    (written : Respaced (Scan.ofText text).body cs) :
    let again := Scan.ofText (String.ofList (lead ++ cs))
    again.errors = [] ∧
      again.tokens.map Token.content = (Scan.ofText text).tokens.map Token.content := by
  have body := written.holds (fun t mem => (Scan.exact_of_mem mem).isLexeme)
    fun t mem => (Scan.exact_of_mem mem).payload
  obtain ⟨silent, contents⟩ := Scan.of_holds (body.behind_gap gap)
  refine ⟨silent, ?_⟩
  rw [Scan.tokens, Scan.tokens, List.map_append, List.map_append, contents]
  rfl

/-- Without a gap the two signs are still two tokens, in other places. -/
theorem scan_bang_slash : Scan.ofText "!/" =
    { body := [{ kind := .mark .bang, lexeme := "!", line := 1, start := 0 }, .slashAt 1 1]
      finish := { kind := .finish, lexeme := "", line := 1, start := 2 }
      errors := [] } := by
  have segments : segments "!/".toList =
      [.token (.mark .bang) ['!'], .token (.mark .slash) ['/']] := by
    show Segment.segments ['!', '/'] = _
    rw [Segment.segments_cons]
    show _ :: Segment.segments ['/'] = _
    rw [segments_lone_slash]
    rfl
  rw [Scan.ofText_eq]
  simp only [Scan.placed, segments]
  rfl

/-- An equals sign in a comment is not joined to the sign before it, and a slash behind a
comment opens none. -/
theorem scan_respaced_signs :
    Gap "/*/**/".toList ∧ Respaced (Scan.ofText "!/").body "! //=\n/".toList ∧
      (Scan.ofText "/*/**/! //=\n/").errors = [] ∧
      (Scan.ofText "/*/**/! //=\n/").tokens.map Token.content =
        [(.mark .bang, "!", .nil), (.mark .slash, "/", .nil), (.finish, "", .nil)] := by
  have gap : Gap "/*/**/".toList := by
    have noClosing : ¬Segment.closing <:+: ['/', '*'] := by decide
    exact .blockComment noClosing .none
  have line : Gap ['/', '/', '=', '\n'] :=
    @Gap.lineComment ['='] [] (by decide) .none
  have written : Respaced (Scan.ofText "!/").body "! //=\n/".toList := by
    rw [scan_bang_slash]
    exact .apart _ (by decide) line (.last _)
  obtain ⟨silent, contents⟩ := scan_respaced "!/" gap written
  refine ⟨gap, written, silent, contents.trans ?_⟩
  rw [scan_bang_slash]
  rfl

end Scriptlet
