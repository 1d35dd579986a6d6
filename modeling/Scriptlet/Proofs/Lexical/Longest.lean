/-
Scriptlet.Proofs.Lexical.Longest — a token is the longest one that starts where
it does.

A text that is a token and could go on makes a longer token with what it could go
on with (`Lexeme.extended`), but for the slash, which what follows turns into a
comment. So a token at the beginning of a text grows until nothing in the text
extends it, and that one is the first segment.
-/
import Scriptlet.Proofs.Lexical.Segmentation

namespace Scriptlet

open Scanner (startsWord continuesWord)

/-- A digit more makes a longer row of digits. -/
theorem Digits.append {digits : List Char} (isDigits : Digits digits) {c : Char}
    (digit : Text.isDigit c = true) : Digits (digits ++ [c]) := by
  refine ⟨List.append_ne_nil_of_left_ne_nil isDigits.1 _, ?_⟩
  refine List.forall_mem_append.mpr ⟨isDigits.2, ?_⟩
  exact List.forall_mem_singleton.mpr digit

namespace Lexeme

variable {kind kind' : Token.Kind} {lexeme lexeme' after next : List Char}

theorem ne_nil (isLexeme : Lexeme kind lexeme) : lexeme ≠ [] := by
  cases isLexeme with
  | mark m =>
    obtain ⟨c, tail, spelled, -⟩ := m.toList_spelling
    rw [spelled]
    exact List.cons_ne_nil c tail
  | keyword k =>
    obtain ⟨c, tail, spelled, -⟩ := k.toList_spelling
    rw [spelled]
    exact List.cons_ne_nil c tail
  | name starts continues unreserved => exact List.cons_ne_nil _ _
  | text noQuote => exact List.cons_ne_nil _ _
  | whole digits => exact digits.1
  | fraction digits places => exact List.append_ne_nil_of_left_ne_nil digits.1 _

/-- A word may become a longer word, of which kind soever. -/
theorem word_append {c d : Char} {tail : List Char} (starts : startsWord c = true)
    (continues : ∀ e ∈ tail, continuesWord e = true) (more : continuesWord d = true) :
    ∃ kind', Lexeme kind' (c :: tail ++ [d]) :=
  ⟨_, .word starts (List.forall_mem_append.mpr ⟨continues, List.forall_mem_singleton.mpr more⟩)⟩

/-- What extends a token makes a longer one with it. -/
theorem extended (isLexeme : Lexeme kind lexeme) (extend : Extends lexeme kind next) :
    lexeme = ['/'] ∨ ∃ kind', Lexeme kind' (lexeme ++ next) := by
  cases isLexeme with
  | mark m =>
    cases m with
    | slash => exact Or.inl rfl
    | bang => cases extend; exact Or.inr ⟨_, .mark .bangEqual⟩
    | equal => cases extend; exact Or.inr ⟨_, .mark .equalEqual⟩
    | less => cases extend; exact Or.inr ⟨_, .mark .lessEqual⟩
    | greater => cases extend; exact Or.inr ⟨_, .mark .greaterEqual⟩
    | _ => cases extend
  | keyword k =>
    obtain ⟨d, rfl, more⟩ := extend
    obtain ⟨c, tail, spelled, starts, continues⟩ := k.toList_spelling
    rw [spelled]
    exact Or.inr (word_append starts continues more)
  | name starts continues unreserved =>
    obtain ⟨d, rfl, more⟩ := extend
    exact Or.inr (word_append starts continues more)
  | text noQuote => cases extend
  | whole digits =>
    obtain ⟨d, rfl, digit⟩ | ⟨-, d, rfl, digit⟩ := extend
    · exact Or.inr ⟨_, .whole (digits.append digit)⟩
    · exact Or.inr ⟨_, .fraction digits ⟨List.cons_ne_nil _ _, by simp [digit]⟩⟩
  | @fraction digits places isDigits isPlaces =>
    obtain ⟨d, rfl, digit⟩ | ⟨noPoint, -⟩ := extend
    · refine Or.inr ⟨.number, ?_⟩
      rw [List.append_assoc, List.cons_append]
      exact .fraction isDigits (isPlaces.append digit)
    · exact absurd (List.mem_append_right _ List.mem_cons_self) noPoint

/-- A token at the beginning of a text is the beginning of one that ends there. -/
theorem exists_ends {kind : Token.Kind} {lexeme : List Char} (isLexeme : Lexeme kind lexeme)
    (after : List Char) :
    lexeme = ['/'] ∨ ∃ kind' more after', Lexeme kind' (lexeme ++ more) ∧
      EndsBefore kind' (lexeme ++ more) after' ∧ more ++ after' = after := by
  by_cases ends : EndsBefore kind lexeme after
  · refine Or.inr ⟨kind, [], after, ?_, ?_, rfl⟩
    · rwa [List.append_nil]
    · rwa [List.append_nil]
  · simp only [EndsBefore, Classical.not_forall, Classical.not_not] at ends
    obtain ⟨next, ⟨rest, whole⟩, extend⟩ := ends
    obtain slash | ⟨longerKind, longer⟩ := isLexeme.extended extend
    · exact Or.inl slash
    · have shorter : rest.length < after.length := by
        have := List.length_pos_iff.mpr extend.ne_nil
        rw [← whole, List.length_append]
        omega
      obtain slash | ⟨kind', more, after', found, ends', left⟩ := longer.exists_ends rest
      · -- A slash is not longer than another token.
        have short := congrArg List.length slash
        have := List.length_pos_iff.mpr isLexeme.ne_nil
        have := List.length_pos_iff.mpr extend.ne_nil
        simp only [List.length_append, List.length_cons, List.length_nil] at short
        omega
      · rw [List.append_assoc] at found ends'
        exact Or.inr ⟨kind', next ++ more, after', found, ends', by
          rw [List.append_assoc, left, whole]⟩
termination_by after.length

/-- No token that starts where another one does is longer. -/
theorem longest (isLexeme : Lexeme kind lexeme) (ends : EndsBefore kind lexeme after)
    (other : Lexeme kind' lexeme') (starts : lexeme' <+: lexeme ++ after) :
    lexeme' <+: lexeme := by
  obtain ⟨left, whole⟩ := starts
  obtain rfl | ⟨kind'', more, after', longer, ends', rfl⟩ := other.exists_ends left
  · cases lexeme with
    | nil => exact absurd rfl isLexeme.ne_nil
    | cons c tail =>
      cases whole
      exact ⟨tail, rfl⟩
  · have taken := Segment.segments_token isLexeme ends
    rw [← whole, ← List.append_assoc, Segment.segments_token longer ends'] at taken
    injection taken with same
    injection same with _ same
    exact ⟨more, same⟩

end Lexeme

end Scriptlet
