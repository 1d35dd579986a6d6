/-
Scriptlet.Tree.Outline — the nodes of a tree, each before its children, with
their depth.
-/
import Scriptlet.Tree

namespace Scriptlet

/-- A node of a tree and its distance from the root. -/
structure Node where
  depth : Nat
  phrase : Phrase

def Expr.outline (depth : Nat) (e : Expr) : List Node :=
  { depth, phrase := .expr e } ::
    match e with
    | .literal _ _ => []
    | .reference _ _ => []
    | .grouping _ inner _ => inner.outline (depth + 1)
    | .unary _ _ operand => operand.outline (depth + 1)
    | .binary _ left _ right => left.outline (depth + 1) ++ right.outline (depth + 1)
    | .logical _ left _ right => left.outline (depth + 1) ++ right.outline (depth + 1)
    | .assign _ _ value => value.outline (depth + 1)

mutual

def Stmt.outline (depth : Nat) (s : Stmt) : List Node :=
  { depth, phrase := .stmt s } ::
    match s with
    | .expr e _ => e.outline (depth + 1)
    | .print _ e _ => e.outline (depth + 1)
    | .declare _ _ _ none _ => []
    | .declare _ _ _ (some e) _ => e.outline (depth + 1)
    | .block ⟨_, body, _⟩ => outlineAll (depth + 1) body
    | .ifThen _ condition body => condition.outline (depth + 1) ++ blockOutline (depth + 1) body
    | .ifElse _ condition body other =>
      condition.outline (depth + 1) ++ blockOutline (depth + 1) body ++
        blockOutline (depth + 1) other
    | .loop _ condition body => condition.outline (depth + 1) ++ blockOutline (depth + 1) body

/-- The nodes of a block that stands in another statement, from a given depth on. -/
def Stmt.blockOutline (depth : Nat) (b : Block Stmt) : List Node :=
  { depth, phrase := .stmt (.block b) } ::
    match b with
    | ⟨_, body, _⟩ => outlineAll (depth + 1) body

def Stmt.outlineAll (depth : Nat) : List Stmt → List Node
  | [] => []
  | s :: rest => s.outline depth ++ outlineAll depth rest

end

/-- What a node shows of itself in a listing: operators and variables say which. -/
def Phrase.label? : Phrase → Option String
  | .expr (.binary _ _ sign _) => some ("<Binary " ++ sign.lexeme ++ ">")
  | .expr (.logical _ _ sign _) => some ("<Logical " ++ sign.lexeme ++ ">")
  | .expr (.reference name _) => some ("<ref:" ++ name ++ ">")
  | _ => none

end Scriptlet
