/-
Scriptlet.Tree.Printed — phrases in parenthesised form.

Every node is written as its head and its parts between parentheses:
`!3 == 4` comes out as `(== (! 3) 4)`. Literals and variables stand for
themselves, without quotes.
-/
import Scriptlet.Tree

namespace Scriptlet

def parenthesized (head : String) (parts : List String) : String :=
  "(" ++ " ".intercalate (head :: parts) ++ ")"

/-- A literal as it is printed. Unlike a print statement it shows `nil`. -/
def Value.printed : Value → String
  | .nil => "nil"
  | v => v.display

def Expr.printed : Expr → String
  | .literal value _ => value.printed
  | .reference name _ => name
  | .grouping _ inner _ => parenthesized "group" [inner.printed]
  | .unary _ sign operand => parenthesized sign.lexeme [operand.printed]
  | .binary _ left sign right => parenthesized sign.lexeme [left.printed, right.printed]
  | .logical _ left sign right => parenthesized sign.lexeme [left.printed, right.printed]
  | .assign name _ value => parenthesized "=" [name, value.printed]

mutual

def Stmt.printed : Stmt → String
  | .expr e _ => parenthesized "expr" [e.printed]
  | .print _ e _ => parenthesized "print" [e.printed]
  | .declare _ name _ none _ => parenthesized "var" [name]
  | .declare _ name _ (some value) _ => parenthesized "var" [name, value.printed]
  | .block ⟨_, body, _⟩ => parenthesized "block" (printedAll body)
  | .ifThen _ condition ⟨_, body, _⟩ =>
    parenthesized "if" [condition.printed, parenthesized "block" (printedAll body)]
  | .ifElse _ condition ⟨_, body, _⟩ ⟨_, other, _⟩ =>
    parenthesized "if"
      [condition.printed, parenthesized "block" (printedAll body),
       parenthesized "block" (printedAll other)]
  | .loop _ condition ⟨_, body, _⟩ =>
    parenthesized "while" [condition.printed, parenthesized "block" (printedAll body)]

def Stmt.printedAll : List Stmt → List String
  | [] => []
  | s :: rest => s.printed :: printedAll rest

end

/-- A script in parenthesised form, a line for each statement. -/
def Program.printed (program : Program) : String :=
  "\n".intercalate (Stmt.printedAll program)

end Scriptlet
