/-
Scriptlet.Value.Operator — the operators of the language on values.

Nothing is converted: each operator names the kinds it takes and refuses every
other. Equality alone takes any two values, and values of different kinds are
never equal. A refusal carries the kinds it met and nothing about the place in
the script, which is the evaluator's to add.
-/
import Scriptlet.Value

namespace Scriptlet

/-- The operators that take two numbers and nothing else. -/
inductive Arithmetic
  | subtract
  | multiply
  | divide
  deriving DecidableEq, Repr

/-- The operators that compare two values of one kind. -/
inductive Relation
  | less
  | lessEqual
  | greater
  | greaterEqual
  deriving DecidableEq, Repr

/-- The operators that evaluate both operands. -/
inductive BinaryOp
  | add
  | arithmetic (op : Arithmetic)
  | equal
  | unequal
  | compare (relation : Relation)
  deriving DecidableEq, Repr

/-- The operators that may leave the right operand alone. -/
inductive LogicalOp
  | both
  | either
  deriving DecidableEq, Repr

/-- The operators with one operand. -/
inductive UnaryOp
  | negate
  | invert
  deriving DecidableEq, Repr

def Arithmetic.sign : Arithmetic → String
  | .subtract => "-"
  | .multiply => "*"
  | .divide => "/"

def Relation.sign : Relation → String
  | .less => "<"
  | .lessEqual => "<="
  | .greater => ">"
  | .greaterEqual => ">="

/-- The kinds of value on which an operator or a condition was refused. -/
inductive TypeError
  | addends (left right : Value.Kind)
  | operands (op : Arithmetic) (left right : Value.Kind)
  | unordered (relation : Relation) (left right : Value.Kind)
  | negated (operand : Value.Kind)
  | inverted (operand : Value.Kind)
  | condition (value : Value.Kind)
  deriving DecidableEq, Repr

def TypeError.message : TypeError → String
  | .addends left right =>
    "Operands of '+' must be two numbers or two strings, not " ++
      left.name ++ " and " ++ right.name ++ "."
  | .operands op left right =>
    "Operands of '" ++ op.sign ++ "' must be numbers, not " ++
      left.name ++ " and " ++ right.name ++ "."
  | .unordered relation left right =>
    "Cannot compare " ++ left.name ++ " and " ++ right.name ++
      " with '" ++ relation.sign ++ "'."
  | .negated operand => "Operand of '-' must be a number, not " ++ operand.name ++ "."
  | .inverted operand => "Operand of '!' must be a boolean, not " ++ operand.name ++ "."
  | .condition value => "Condition must be a boolean, not " ++ value.name ++ "."

/-- Arithmetic on doubles; division by zero goes to infinity or to NaN. -/
def Arithmetic.apply : Arithmetic → Float → Float → Float
  | .subtract, x, y => x - y
  | .multiply, x, y => x * y
  | .divide, x, y => x / y

/-- Whether a relation holds between two doubles; none holds with NaN. -/
def Relation.onNumbers : Relation → Float → Float → Bool
  | .less, x, y => x < y
  | .lessEqual, x, y => x ≤ y
  | .greater, x, y => y < x
  | .greaterEqual, x, y => y ≤ x

def Relation.onOrdering : Relation → Ordering → Bool
  | .less, o => o.isLT
  | .lessEqual, o => o.isLE
  | .greater, o => o.isGT
  | .greaterEqual, o => o.isGE

namespace Value

/-- Equality: of one kind and equal there. NaN differs from itself, and the two
zeros are equal. -/
def equals : Value → Value → Bool
  | .nil, .nil => true
  | .boolean a, .boolean b => a == b
  | .number x, .number y => x == y
  | .text s, .text t => s == t
  | _, _ => false

def add : Value → Value → Except TypeError Value
  | .number x, .number y => .ok (.number (x + y))
  | .text s, .text t => .ok (.text (s ++ t))
  | a, b => .error (.addends a.kind b.kind)

def arithmetic (op : Arithmetic) : Value → Value → Except TypeError Value
  | .number x, .number y => .ok (.number (op.apply x y))
  | a, b => .error (.operands op a.kind b.kind)

/-- The order of two values of one kind: texts by code point, false before true. -/
def compare (relation : Relation) : Value → Value → Except TypeError Bool
  | .number x, .number y => .ok (relation.onNumbers x y)
  | .text s, .text t => .ok (relation.onOrdering (Ord.compare s t))
  | .boolean a, .boolean b => .ok (relation.onOrdering (Ord.compare a b))
  | .nil, .nil => .ok (relation.onOrdering .eq)
  | a, b => .error (.unordered relation a.kind b.kind)

def negate : Value → Except TypeError Value
  | .number x => .ok (.number (-x))
  | a => .error (.negated a.kind)

def invert : Value → Except TypeError Value
  | .boolean b => .ok (.boolean !b)
  | a => .error (.inverted a.kind)

def truth : Value → Except TypeError Bool
  | .boolean b => .ok b
  | a => .error (.condition a.kind)

end Value

def BinaryOp.apply : BinaryOp → Value → Value → Except TypeError Value
  | .add, a, b => a.add b
  | .arithmetic op, a, b => Value.arithmetic op a b
  | .equal, a, b => .ok (.boolean (a.equals b))
  | .unequal, a, b => .ok (.boolean !(a.equals b))
  | .compare relation, a, b => (Value.compare relation a b).map .boolean

def UnaryOp.apply : UnaryOp → Value → Except TypeError Value
  | .negate, a => a.negate
  | .invert, a => a.invert

/-- The truth value of the left operand on which the right one is left alone. -/
def LogicalOp.settledBy : LogicalOp → Bool
  | .both => false
  | .either => true

end Scriptlet
