/-
Scriptlet.Proofs.Scope.Marked — scripts that say where their variables are.

A marked tree is a tree in which each variable, read or assigned, carries the
number of scopes to go outward to its binding, or `none` for a variable that has
none. The marks are the work of one walk over the tree (`Names.markAll`), which
knows the names that the scopes bind and none of their values.

A marked tree is run without any search: a variable is read and overwritten in
the scope that its mark says. Such a run is stuck, and answers `none`, as soon as
a mark is not where the search of the environment would stop.
-/
import Scriptlet.Proofs.Scope.Discipline

namespace Scriptlet

namespace Marked

/-! ## 1. Trees -/

/-- An expression whose variables are marked. -/
inductive Expr
  | literal (value : Value) (token : Token)
  | reference (name : String) (token : Token) (mark : Option Nat)
  | grouping (opening : Token) (inner : Expr) (closing : Token)
  | unary (op : UnaryOp) (sign : Token) (operand : Expr)
  | binary (op : BinaryOp) (left : Expr) (sign : Token) (right : Expr)
  | logical (op : LogicalOp) (left : Expr) (sign : Token) (right : Expr)
  | assign (name : String) (target : Token) (mark : Option Nat) (value : Expr)

inductive Stmt
  | expr (e : Expr) (semicolon : Token)
  | print (keyword : Token) (e : Expr) (semicolon : Token)
  | declare (keyword : Token) (name : String) (target : Token) (value : Option Expr)
      (semicolon : Token)
  | block (b : Block Stmt)
  | ifThen (keyword : Token) (condition : Expr) (thenBlock : Block Stmt)
  | ifElse (keyword : Token) (condition : Expr) (thenBlock elseBlock : Block Stmt)
  | loop (keyword : Token) (condition : Expr) (body : Block Stmt)

def Expr.erase : Expr → Scriptlet.Expr
  | .literal value token => .literal value token
  | .reference name token _ => .reference name token
  | .grouping opening inner closing => .grouping opening inner.erase closing
  | .unary op sign operand => .unary op sign operand.erase
  | .binary op left sign right => .binary op left.erase sign right.erase
  | .logical op left sign right => .logical op left.erase sign right.erase
  | .assign name target _ value => .assign name target value.erase

mutual

def Stmt.erase : Stmt → Scriptlet.Stmt
  | .expr e semicolon => .expr e.erase semicolon
  | .print keyword e semicolon => .print keyword e.erase semicolon
  | .declare keyword name target value semicolon =>
    .declare keyword name target (value.map Expr.erase) semicolon
  | .block ⟨opening, body, closing⟩ => .block ⟨opening, eraseAll body, closing⟩
  | .ifThen keyword condition ⟨opening, body, closing⟩ =>
    .ifThen keyword condition.erase ⟨opening, eraseAll body, closing⟩
  | .ifElse keyword condition ⟨opening, body, closing⟩ ⟨opening', other, closing'⟩ =>
    .ifElse keyword condition.erase ⟨opening, eraseAll body, closing⟩
      ⟨opening', eraseAll other, closing'⟩
  | .loop keyword condition ⟨opening, body, closing⟩ =>
    .loop keyword condition.erase ⟨opening, eraseAll body, closing⟩

def Stmt.eraseAll : List Stmt → List Scriptlet.Stmt
  | [] => []
  | s :: rest => s.erase :: eraseAll rest

end

end Marked

/-! ## 2. The walk -/

namespace Names

def markExpr (names : Names) : Expr → Marked.Expr
  | .literal value token => .literal value token
  | .reference name token => .reference name token (names.distance? name)
  | .grouping opening inner closing => .grouping opening (names.markExpr inner) closing
  | .unary op sign operand => .unary op sign (names.markExpr operand)
  | .binary op left sign right => .binary op (names.markExpr left) sign (names.markExpr right)
  | .logical op left sign right => .logical op (names.markExpr left) sign (names.markExpr right)
  | .assign name target value =>
    .assign name target (names.distance? name) (names.markExpr value)

mutual

/-- Mark the variables of a statement. A block is walked with one more scope,
empty at first, which is gone after it. -/
def mark (names : Names) : Stmt → Marked.Stmt
  | .expr e semicolon => .expr (names.markExpr e) semicolon
  | .print keyword e semicolon => .print keyword (names.markExpr e) semicolon
  | .declare keyword name target value semicolon =>
    .declare keyword name target (value.map names.markExpr) semicolon
  | .block ⟨opening, body, closing⟩ => .block ⟨opening, names.push.markAll body, closing⟩
  | .ifThen keyword condition ⟨opening, body, closing⟩ =>
    .ifThen keyword (names.markExpr condition) ⟨opening, names.push.markAll body, closing⟩
  | .ifElse keyword condition ⟨opening, body, closing⟩ ⟨opening', other, closing'⟩ =>
    .ifElse keyword (names.markExpr condition) ⟨opening, names.push.markAll body, closing⟩
      ⟨opening', names.push.markAll other, closing'⟩
  | .loop keyword condition ⟨opening, body, closing⟩ =>
    .loop keyword (names.markExpr condition) ⟨opening, names.push.markAll body, closing⟩

/-- Mark the variables of statements in order, each with the names declared before it. -/
def markAll (names : Names) : List Stmt → List Marked.Stmt
  | [] => []
  | s :: rest => names.mark s :: (names.after s).markAll rest

end

end Names

namespace Marked

/-! ## 3. Expressions without a search -/

def undefined (name : String) (site : Scriptlet.Expr) : Fault :=
  { cause := .undefined name, site := .expr site }

/-- Go on with an answer, unless the run is stuck or there was a fault. -/
def andThen {α β : Type} (r : Option (Evaluated α))
    (next : α → Environment → Option (Evaluated β)) : Option (Evaluated β) :=
  match r with
  | none => none
  | some (.error fault, env) => some (.error fault, env)
  | some (.ok a, env) => next a env

def read (mark : Option Nat) (name : String) (site : Scriptlet.Expr) (env : Environment) :
    Option (Evaluated Value) :=
  if env.distance? name = mark then
    match mark with
    | none => some (.error (undefined name site), env)
    | some distance => (env.valueAt? distance name).map fun value => (.ok value, env)
  else none

/-- Overwrite a variable in the scope that its mark says, and answer its previous value. -/
def overwrite (mark : Option Nat) (name : String) (value : Value) (site : Scriptlet.Expr)
    (env : Environment) : Option (Evaluated Value) :=
  if env.distance? name = mark then
    match mark with
    | none => some (.error (undefined name site), env)
    | some distance =>
      (env.valueAt? distance name).map fun previous =>
        (.ok previous, env.setAt distance name value)
  else none

namespace Expr

def eval : Expr → Environment → Option (Evaluated Value)
  | .literal value _, env => some (.ok value, env)
  | .reference name token mark, env => read mark name (.reference name token) env
  | .grouping _ inner _, env => inner.eval env
  | .unary op sign operand, env =>
    andThen (operand.eval env) fun a env =>
      some (blame (.unary op sign operand.erase) (op.apply a), env)
  | .binary op left sign right, env =>
    andThen (left.eval env) fun a env =>
      andThen (right.eval env) fun b env =>
        some (blame (.binary op left.erase sign right.erase) (op.apply a b), env)
  | .logical op left _ right, env =>
    andThen (left.eval env) fun a env =>
      andThen (some (blame left.erase a.truth, env)) fun truth env =>
        if truth = op.settledBy then some (.ok a, env) else right.eval env
  | .assign name target mark value, env =>
    andThen (value.eval env) fun a env =>
      overwrite mark name a (.assign name target value.erase) env

def test (condition : Expr) (env : Environment) : Option (Evaluated Bool) :=
  andThen (condition.eval env) fun a env => some (blame condition.erase a.truth, env)

def evalInitial : Option Expr → Environment → Option (Evaluated Value)
  | none, env => some (.ok .nil, env)
  | some e, env => e.eval env

end Expr

/-! ## 4. Statements without a search -/

def thenRun {α : Type} (r : Option (Evaluated α)) (st : State)
    (next : α → State → Option (Ending × State)) : Option (Ending × State) :=
  match r with
  | none => none
  | some (.error fault, env) => some (.failed fault, { st with env })
  | some (.ok a, env) => next a { st with env }

def thenNext (r : Option (Ending × State)) (next : State → Option (Ending × State)) :
    Option (Ending × State) :=
  match r with
  | none => none
  | some (.done, st) => next st
  | some (ending, st) => some (ending, st)

namespace Stmt

def inScope (site : Block Scriptlet.Stmt) (body : State → Option (Ending × State)) (st : State) :
    Option (Ending × State) :=
  match body { st with env := st.env.push } with
  | none => none
  | some (ending, st) =>
    match st.env.pop with
    | .ok env => some (ending, { st with env })
    | .error cause => some (.failed { cause, site := .stmt (.block site) }, st)

def choose (condition : Expr) (yes no : State → Option (Ending × State)) (st : State) :
    Option (Ending × State) :=
  thenRun (condition.test st.env) st fun truth st => if truth then yes st else no st

/-- Run `body` as long as a condition holds, for at most `rounds` tests of it. -/
def repeatWhile (condition : Expr) (body : State → Option (Ending × State)) :
    (rounds : Nat) → State → Option (Ending × State)
  | 0, st => some (.unfinished, st)
  | rounds + 1, st =>
    thenRun (condition.test st.env) st fun truth st =>
      if truth then thenNext (body st) (repeatWhile condition body rounds)
      else some (.done, st)

mutual

def exec (rounds : Nat) : Stmt → State → Option (Ending × State)
  | .expr e _, st => thenRun (e.eval st.env) st fun _ st => some (.done, st)
  | .print _ e _, st =>
    thenRun (e.eval st.env) st fun a st =>
      some (.done, { st with out := st.out ++ Text.line a.display })
  | .declare _ name _ value _, st =>
    thenRun (Expr.evalInitial value st.env) st fun a st =>
      some (.done, { st with env := st.env.define name a })
  | .block ⟨opening, body, closing⟩, st =>
    inScope ⟨opening, eraseAll body, closing⟩ (execAll rounds body) st
  | .ifThen _ condition ⟨opening, body, closing⟩, st =>
    choose condition (inScope ⟨opening, eraseAll body, closing⟩ (execAll rounds body))
      (fun st => some (.done, st)) st
  | .ifElse _ condition ⟨opening, body, closing⟩ ⟨opening', other, closing'⟩, st =>
    choose condition (inScope ⟨opening, eraseAll body, closing⟩ (execAll rounds body))
      (inScope ⟨opening', eraseAll other, closing'⟩ (execAll rounds other)) st
  | .loop _ condition ⟨opening, body, closing⟩, st =>
    repeatWhile condition (inScope ⟨opening, eraseAll body, closing⟩ (execAll rounds body))
      rounds st

def execAll (rounds : Nat) : List Stmt → State → Option (Ending × State)
  | [], st => some (.done, st)
  | s :: rest, st => thenNext (exec rounds s st) (execAll rounds rest)

end

end Stmt

/-! ## 5. Variables without a binding -/

/-- The faults that the variables without a binding stand for. -/
def Expr.unbound : Expr → List Fault
  | .literal _ _ => []
  | .reference name token none => [undefined name (.reference name token)]
  | .reference _ _ (some _) => []
  | .grouping _ inner _ => inner.unbound
  | .unary _ _ operand => operand.unbound
  | .binary _ left _ right => left.unbound ++ right.unbound
  | .logical _ left _ right => left.unbound ++ right.unbound
  | .assign name target none value =>
    value.unbound ++ [undefined name (.assign name target value.erase)]
  | .assign _ _ (some _) value => value.unbound

mutual

def Stmt.unbound : Stmt → List Fault
  | .expr e _ => e.unbound
  | .print _ e _ => e.unbound
  | .declare _ _ _ none _ => []
  | .declare _ _ _ (some e) _ => e.unbound
  | .block ⟨_, body, _⟩ => unboundAll body
  | .ifThen _ condition ⟨_, body, _⟩ => condition.unbound ++ unboundAll body
  | .ifElse _ condition ⟨_, body, _⟩ ⟨_, other, _⟩ =>
    condition.unbound ++ (unboundAll body ++ unboundAll other)
  | .loop _ condition ⟨_, body, _⟩ => condition.unbound ++ unboundAll body

def Stmt.unboundAll : List Stmt → List Fault
  | [] => []
  | s :: rest => s.unbound ++ unboundAll rest

end

end Marked

end Scriptlet
