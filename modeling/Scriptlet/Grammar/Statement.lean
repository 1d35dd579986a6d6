/-
Scriptlet.Grammar.Statement — the grammar of statements.

    program     := declaration*
    declaration := "var" name ( "=" expression )? ";" | statement
    statement   := "print" expression ";"
                 | "if" condition block ( "else" block )?
                 | "while" condition block
                 | block
                 | expression ";"
    condition   := "(" expression ")"
    block       := "{" declaration* "}"

The first token decides which rule a declaration follows. The first token that
cannot go on ends the reading: there is no recovery, and no part of a refused
program is handed back.
-/
import Scriptlet.Grammar.Expression

namespace Scriptlet.Grammar

/-- The tokens left after a reading, and one more before it, are fewer still. -/
theorem Parsed.shorter_cons {α : Type} {t : Token} {ts : List Token} (p : Parsed α ts) :
    p.rest.length < (t :: ts).length :=
  Nat.lt_succ_of_lt p.shorter

def firstValue (finish : Token) (ts : List Token) :
    Except ParseError (Extended (Option Expr) ts) :=
  match ts with
  | [] => pure (.unread none [])
  | t :: after =>
    if t.kind = .mark .equal then do
      let e ← expression finish after
      pure { value := some e.value, rest := e.rest, noLonger := Nat.le_of_lt e.shorter_cons }
    else
      pure (.unread none (t :: after))

def afterVar (finish keyword : Token) (ts : List Token) : Reading Stmt ts := do
  let name ← expect finish .identifier .variableName ts
  let value ← firstValue finish name.rest
  let semicolon ← expect finish (.mark .semicolon) .semicolonAfterDeclaration value.rest
  pure { value := .declare keyword name.value.name name.value value.value semicolon.value
         rest := semicolon.rest
         shorter := Nat.lt_of_lt_of_le semicolon.shorter
           (Nat.le_trans value.noLonger (Nat.le_of_lt name.shorter)) }

def afterPrint (finish keyword : Token) (ts : List Token) : Reading Stmt ts := do
  let e ← expression finish ts
  let semicolon ← expect finish (.mark .semicolon) .semicolonAfterValue e.rest
  pure { value := .print keyword e.value semicolon.value
         rest := semicolon.rest
         shorter := Nat.lt_trans semicolon.shorter e.shorter }

def expressionStatement (finish : Token) (ts : List Token) : Reading Stmt ts := do
  let e ← expression finish ts
  let semicolon ← expect finish (.mark .semicolon) .semicolonAfterExpression e.rest
  pure { value := .expr e.value semicolon.value
         rest := semicolon.rest
         shorter := Nat.lt_trans semicolon.shorter e.shorter }

/-- A condition in its parentheses, after the keyword that asks for it. -/
def condition (finish keyword : Token) (ts : List Token) : Reading Expr ts := do
  let opening ← expect finish (.mark .leftParen) (.openingAfter keyword.lexeme) ts
  let e ← expression finish opening.rest
  let closing ← expect finish (.mark .rightParen) .closingAfterCondition e.rest
  pure { value := e.value
         rest := closing.rest
         shorter := Nat.lt_trans closing.shorter (Nat.lt_trans e.shorter opening.shorter) }

mutual

def declaration (finish : Token) (ts : List Token) : Reading Stmt ts :=
  match ts with
  | [] => expressionStatement finish []
  | t :: after =>
    match t.kind with
    | .keyword .varWord => do
      let s ← afterVar finish t after
      pure { value := s.value, rest := s.rest, shorter := s.shorter_cons }
    | .keyword .printWord => do
      let s ← afterPrint finish t after
      pure { value := s.value, rest := s.rest, shorter := s.shorter_cons }
    | .keyword .ifWord => do
      let test ← condition finish t after
      have := test.shorter
      let thenBlock ← block finish test.rest
      have := thenBlock.shorter
      let otherwise ← elseBlock finish thenBlock.rest
      have := otherwise.noLonger
      let stmt :=
        match otherwise.value with
        | none => Stmt.ifThen t test.value thenBlock.value
        | some other => Stmt.ifElse t test.value thenBlock.value other
      pure { value := stmt
             rest := otherwise.rest
             shorter := by simp only [List.length_cons]; omega }
    | .keyword .whileWord => do
      let test ← condition finish t after
      have := test.shorter
      let body ← block finish test.rest
      have := body.shorter
      pure { value := .loop t test.value body.value
             rest := body.rest
             shorter := by simp only [List.length_cons]; omega }
    | .mark .leftBrace => do
      let b ← block finish (t :: after)
      pure { value := .block b.value, rest := b.rest, shorter := b.shorter }
    | _ => expressionStatement finish (t :: after)
termination_by (ts.length, 1)

def block (finish : Token) (ts : List Token) : Reading (Block Stmt) ts := do
  let opening ← expect finish (.mark .leftBrace) .blockStart ts
  have := opening.shorter
  let inside ← declarations finish opening.rest
  pure { value := { opening := opening.value, body := inside.value.1, closing := inside.value.2 }
         rest := inside.rest
         shorter := Nat.lt_trans inside.shorter opening.shorter }
termination_by (ts.length, 0)

/-- The declarations up to a closing brace, and that brace. -/
def declarations (finish : Token) (ts : List Token) : Reading (List Stmt × Token) ts :=
  match ts with
  | [] => .error (.unexpected finish .blockEnd)
  | t :: after =>
    if t.kind = .mark .rightBrace then
      pure { value := ([], t), rest := after, shorter := by simp }
    else do
      let first ← declaration finish (t :: after)
      have := first.shorter
      let others ← declarations finish first.rest
      pure { value := (first.value :: others.value.1, others.value.2)
             rest := others.rest
             shorter := Nat.lt_trans others.shorter first.shorter }
termination_by (ts.length, 2)

def elseBlock (finish : Token) (ts : List Token) :
    Except ParseError (Extended (Option (Block Stmt)) ts) :=
  match ts with
  | [] => pure (.unread none [])
  | t :: after =>
    if t.kind = .keyword .elseWord then do
      let b ← block finish after
      pure { value := some b.value, rest := b.rest, noLonger := Nat.le_of_lt b.shorter_cons }
    else
      pure (.unread none (t :: after))
termination_by (ts.length, 0)

end

def program (finish : Token) (ts : List Token) : Except ParseError Program :=
  match ts with
  | [] => pure []
  | t :: after => do
    let first ← declaration finish (t :: after)
    have := first.shorter
    let others ← program finish first.rest
    pure (first.value :: others)
termination_by ts.length
decreasing_by assumption

end Scriptlet.Grammar

namespace Scriptlet

def Program.ofStream (stream : Stream) : Except ParseError Program :=
  Grammar.program stream.finish stream.body

end Scriptlet
