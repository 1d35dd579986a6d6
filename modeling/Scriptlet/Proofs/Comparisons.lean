/-
Scriptlet.Proofs.Comparisons — the relations and equality of values fit together.

The four relations and equality are written apart: numbers go to the comparisons of
doubles, texts and booleans to an ordering, `nil` is a case of its own, and equality has
its own table of kinds. Among values of one kind, none of them NaN, they are all readings
of one ordering (`Value.order`), numbers being ordered as their places among the doubles.
What holds of that ordering is then said once, and every relation has it
(`comparisons_fit`). NaN has to stay out: it is not even equal to itself.
-/
import Scriptlet.Proofs.Number.Order
import Scriptlet.Value.Operator

namespace Scriptlet

/-- A relation between numbers is one of their ranks, once NaN is out of the way. -/
theorem Relation.onNumbers_eq {x y : Float} (number : Double.classOf x ≠ .undefined)
    (number' : Double.classOf y ≠ .undefined) (relation : Relation) :
    relation.onNumbers x y = relation.onOrdering (compare (Double.rank x) (Double.rank y)) := by
  cases relation with
  | less => exact Double.decide_lt number number'
  | lessEqual => exact Double.decide_le number number'
  | greater =>
    rw [Std.OrientedOrd.eq_swap]
    exact (Double.decide_lt number' number).trans Ordering.isGT_swap.symm
  | greaterEqual =>
    rw [Std.OrientedOrd.eq_swap]
    exact (Double.decide_le number' number).trans Ordering.isGE_swap.symm

namespace Value

/-! ## 1. One ordering for each kind -/

def IsDefined : Value → Prop
  | .number x => Double.classOf x ≠ .undefined
  | _ => True

instance : ∀ a : Value, Decidable a.IsDefined
  | .number x => inferInstanceAs (Decidable (Double.classOf x ≠ .undefined))
  | .nil | .boolean _ | .text _ => inferInstanceAs (Decidable True)

/-- How two values of one kind are ordered. -/
def order : Value → Value → Ordering
  | .boolean a, .boolean b => Ord.compare a b
  | .number x, .number y => Ord.compare (Double.rank x) (Double.rank y)
  | .text s, .text t => Ord.compare s t
  | _, _ => .eq

variable {a b c : Value}

/-- Values of one kind that are ordered answer every relation, by one and the same order. -/
theorem compare_eq (alike : a.kind = b.kind) (number : a.IsDefined) (number' : b.IsDefined)
    (relation : Relation) : compare relation a b = .ok (relation.onOrdering (order a b)) := by
  cases a with
  | nil => cases b <;> first | rfl | cases alike
  | boolean p => cases b <;> first | rfl | cases alike
  | number x =>
    cases b with
    | number y => exact congrArg Except.ok (relation.onNumbers_eq number number')
    | _ => cases alike
  | text s => cases b <;> first | rfl | cases alike

/-- Equality agrees with that order: the two zeros are equal in it. -/
theorem equals_eq (alike : a.kind = b.kind) (number : a.IsDefined) (number' : b.IsDefined) :
    a.equals b = (order a b).isEq := by
  cases a with
  | nil => cases b <;> first | rfl | cases alike
  | boolean p =>
    cases b with
    | boolean q => cases p <;> cases q <;> rfl
    | _ => cases alike
  | number x =>
    cases b with
    | number y => exact Double.beq_eq number number'
    | _ => cases alike
  | text s =>
    cases b with
    | text t =>
      show (s == t) = (Ord.compare s t).isEq
      rw [Bool.eq_iff_iff, beq_iff_eq, Ordering.isEq_iff_eq_eq, Std.LawfulEqOrd.compare_eq_iff_eq]
    | _ => cases alike

theorem order_self (a : Value) : order a a = .eq := by
  cases a with
  | nil => rfl
  | boolean p => exact Std.compare_self
  | number x => exact Std.compare_self
  | text s => exact Std.compare_self

theorem order_swap (a b : Value) : order a b = (order b a).swap := by
  cases a <;> cases b <;> first | rfl | exact Std.OrientedOrd.eq_swap

/-- The order of one kind is transitive, kind by kind. -/
theorem order_trans (alike : a.kind = b.kind) (alike' : b.kind = c.kind)
    (first : (order a b).isLE) (second : (order b c).isLE) : (order a c).isLE := by
  cases a with
  | nil => cases c <;> rfl
  | boolean p =>
    cases b with
    | boolean q =>
      cases c with
      | boolean r => exact Std.TransOrd.isLE_trans first second
      | _ => cases alike'
    | _ => cases alike
  | number x =>
    cases b with
    | number y =>
      cases c with
      | number z => exact Std.TransOrd.isLE_trans first second
      | _ => cases alike'
    | _ => cases alike
  | text s =>
    cases b with
    | text t =>
      cases c with
      | text u => exact Std.TransOrd.isLE_trans first second
      | _ => cases alike'
    | _ => cases alike

/-! ## 2. The relations and equality -/

def Holds (relation : Relation) (a b : Value) : Prop := compare relation a b = .ok true

instance (relation : Relation) (a b : Value) : Decidable (Holds relation a b) :=
  inferInstanceAs (Decidable (compare relation a b = .ok true))

/-- What a relation answers is read off the order. -/
theorem holds_iff (alike : a.kind = b.kind) (number : a.IsDefined) (number' : b.IsDefined)
    (relation : Relation) : Holds relation a b ↔ relation.onOrdering (order a b) = true := by
  rw [Holds, compare_eq alike number number', Except.ok.injEq]

/-- What relations and equality make of three values when they fit together: one linear
order, of which each of them is a reading. -/
structure Fits (a b c : Value) : Prop where
  answered : ∀ relation, ∃ holds, compare relation a b = .ok holds
  reflexive : Holds .lessEqual a a
  transitive : Holds .lessEqual a b → Holds .lessEqual b c → Holds .lessEqual a c
  total : Holds .lessEqual a b ∨ Holds .lessEqual b a
  less_iff : Holds .less a b ↔ Holds .lessEqual a b ∧ a.equals b = false
  greater_eq : compare .greater a b = compare .less b a
  greaterEqual_eq : compare .greaterEqual a b = compare .lessEqual b a
  equals_iff : a.equals b = true ↔ Holds .lessEqual a b ∧ Holds .greaterEqual a b
  exactly_one :
    (Holds .less a b ∧ a.equals b = false ∧ ¬ Holds .greater a b) ∨
    (¬ Holds .less a b ∧ a.equals b = true ∧ ¬ Holds .greater a b) ∨
    (¬ Holds .less a b ∧ a.equals b = false ∧ Holds .greater a b)

/-- Values of one kind that are not NaN fit together. -/
theorem fits (alike : a.kind = b.kind) (alike' : b.kind = c.kind) (number : a.IsDefined)
    (number' : b.IsDefined) (number'' : c.IsDefined) : Fits a b c where
  answered relation := ⟨_, compare_eq alike number number' relation⟩
  reflexive := by
    rw [holds_iff rfl number number, order_self]
    rfl
  transitive := by
    simp only [holds_iff alike number number', holds_iff alike' number' number'',
      holds_iff (alike.trans alike') number number'']
    exact order_trans alike alike'
  total := by
    simp only [holds_iff alike number number', holds_iff alike.symm number' number]
    rw [order_swap b a]
    cases order a b <;> decide
  less_iff := by
    simp only [holds_iff alike number number', equals_eq alike number number']
    cases order a b <;> decide
  greater_eq := by
    rw [compare_eq alike number number', compare_eq alike.symm number' number, order_swap b a]
    cases order a b <;> rfl
  greaterEqual_eq := by
    rw [compare_eq alike number number', compare_eq alike.symm number' number, order_swap b a]
    cases order a b <;> rfl
  equals_iff := by
    simp only [holds_iff alike number number', equals_eq alike number number']
    cases order a b <;> decide
  exactly_one := by
    simp only [holds_iff alike number number', equals_eq alike number number']
    cases order a b <;> decide

/-- Texts are ordered by the code points of their characters, from the first that differs. -/
theorem holds_less_text (s t : String) :
    Holds .less (.text s) (.text t) ↔
      List.Lex (fun c d => c.toNat < d.toNat) s.toList t.toList := by
  have reading : Holds .less (.text s) (.text t) ↔ Ord.compare s t = .lt := by
    rw [holds_iff (a := .text s) (b := .text t) rfl trivial trivial]
    exact Ordering.isLT_iff_eq_lt
  rw [reading]
  exact compareOfLessAndEq_eq_lt.trans String.lt_iff_toList_lt

/-- False comes before true, and nothing else is less. -/
theorem holds_less_boolean (p q : Bool) :
    Holds .less (.boolean p) (.boolean q) ↔ p = false ∧ q = true := by
  cases p <;> cases q <;> decide

/-- Values of two kinds are never equal, and no relation takes them. -/
theorem compare_of_kind_ne (unlike : a.kind ≠ b.kind) :
    a.equals b = false ∧
      ∀ relation, compare relation a b = .error (.unordered relation a.kind b.kind) := by
  cases a <;> cases b <;> first | exact ⟨rfl, fun _ => rfl⟩ | exact absurd rfl unlike

end Value

/-- The relations and equality fit together. Among values of one kind, none of them NaN,
they are readings of one linear order, in which texts are ordered by the code points at
which they first differ, a beginning of a text before the text, and false is before true.
Values of different kinds are neither equal nor ordered. -/
theorem comparisons_fit :
    (∀ a b c : Value, a.kind = b.kind → b.kind = c.kind → a.IsDefined → b.IsDefined →
      c.IsDefined → Value.Fits a b c) ∧
    (∀ s t : String, Value.Holds .less (.text s) (.text t) ↔
      List.Lex (fun c d => c.toNat < d.toNat) s.toList t.toList) ∧
    (∀ p q : Bool, Value.Holds .less (.boolean p) (.boolean q) ↔ p = false ∧ q = true) ∧
    ∀ a b : Value, a.kind ≠ b.kind →
      a.equals b = false ∧
        ∀ relation, Value.compare relation a b = .error (.unordered relation a.kind b.kind) :=
  ⟨fun _ _ _ => Value.fits, Value.holds_less_text, Value.holds_less_boolean,
    fun _ _ => Value.compare_of_kind_ne⟩

/-- The zeros differ in their sign only and are equal; a text comes after its beginnings; and a
text of digits is no number. -/
theorem comparisons_fit_zeros :
    Value.Fits (.number (-Double.ofMagnitude 0)) (.number (Double.ofMagnitude 0))
      (.number (Double.ofMagnitude Ratio.infinityBits)) ∧
    Value.Holds .less (.text "a") (.text "ab") ∧
    Value.compare .less (.text "1") (.number (Double.ofMagnitude 1)) =
      .error (.unordered .less .text .number) :=
  ⟨comparisons_fit.1 _ _ _ rfl rfl (by decide +kernel) (by decide +kernel) (by decide +kernel),
    (comparisons_fit.2.1 "a" "ab").mpr (.cons .nil),
    (comparisons_fit.2.2.2 _ _ (by decide)).2 .less⟩

/-- The zeros differ and are equal. -/
example :
    Value.number (-Double.ofMagnitude 0) ≠ .number (Double.ofMagnitude 0) ∧
      (Value.number (-Double.ofMagnitude 0)).equals (.number (Double.ofMagnitude 0)) = true := by
  decide +kernel

end Scriptlet
