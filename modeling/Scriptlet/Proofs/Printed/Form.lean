/-
Scriptlet.Proofs.Printed.Form — parenthesised forms can be read in one way only.

A form is a word, or a head and its parts between parentheses. No word has a blank, a line
break or a parenthesis in it, so a word goes up to the first of these. A group goes up to the
end of its last part, and whether a part comes next is seen from the mark before it. So where
two forms begin the same text they are the same form, and what comes after them is the same
(`Form.Plain.readOnce`); and so are rows of forms, each with a mark before it.
-/
import Scriptlet.Proofs.Lexical.Segmentation
import Scriptlet.Tree.Printed

namespace Scriptlet

/-! ## 1. Forms -/

/-- A text in parenthesised form, taken apart. -/
inductive Form
  /-- A word, which stands for itself. -/
  | word (text : String)
  /-- A head and its parts between parentheses. -/
  | group (head : String) (parts : List Form)

namespace Form

/-- What words and groups are told apart by. -/
def marks : List Char := ['(', ')', ' ', '\n']

/-- No parenthesis, no blank and no line break. -/
def Word (text : String) : Prop := ∀ c ∈ text.toList, c ∉ marks

instance (text : String) : Decidable (Word text) :=
  decidable_of_iff ((text.toList.all fun c => decide (c ∉ marks)) = true) (by simp [Word])

/-- All words and heads of the form are words indeed. -/
inductive Plain : Form → Prop
  | word {text : String} (isWord : Word text) : Plain (.word text)
  | group {head : String} {parts : List Form} (isWord : Word head)
      (plain : ∀ f ∈ parts, Plain f) : Plain (.group head parts)

mutual

def render : Form → List Char
  | .word text => text.toList
  | .group head parts => '(' :: (head.toList ++ (renderAll ' ' parts ++ [')']))

def renderAll (mark : Char) : List Form → List Char
  | [] => []
  | f :: rest => mark :: (f.render ++ renderAll mark rest)

end

/-! ## 2. Where a word ends -/

section

variable {text text' : String} {r r' : List Char}

/-- A form is over before this: at its end, or before a mark that opens nothing. -/
def Stops (r : List Char) : Prop := ∀ c, [c] <+: r → c ∈ [')', ' ', '\n']

theorem stops_nil : Stops [] := fun _ first =>
  absurd (List.prefix_nil.mp first) (List.cons_ne_nil _ _)

/-- A closing mark or a separator ends a form. -/
theorem stops_cons {c : Char} (mem : c ∈ [')', ' ', '\n']) : Stops (c :: r) := by
  intro d first
  obtain ⟨rfl, -⟩ := List.cons_prefix_cons.mp first
  exact mem

/-- What ends a form is a mark, and so in no word. -/
theorem Stops.mark (stops : Stops r) {c : Char} (first : [c] <+: r) : c ∈ marks :=
  List.mem_cons_of_mem _ (stops c first)

/-- Two words at the beginning of one text are one word, each of them ending where a mark is. -/
theorem Word.split (isWord : Word text) (isWord' : Word text') (stops : Stops r)
    (stops' : Stops r') (same : text.toList ++ r = text'.toList ++ r') : text = text' ∧ r = r' := by
  have all : ∀ {text : String}, Word text → ∀ c ∈ text.toList, decide (c ∉ marks) = true :=
    fun isWord c mem => decide_eq_true (isWord c mem)
  have stop : ∀ {r : List Char}, Stops r → ∀ c, [c] <+: r → decide (c ∉ marks) = false :=
    fun stops c first => decide_eq_false (not_not_intro (stops.mark first))
  have taken := Segment.takeWhile_run (all isWord) (stop stops)
  rw [same, Segment.takeWhile_run (all isWord') (stop stops')] at taken
  obtain rfl := String.toList_inj.mp taken
  exact ⟨rfl, List.append_cancel_left same⟩

/-- A word does not begin like a group. -/
theorem Word.ne_group (isWord : Word text) (stops : Stops r) (more : List Char) :
    text.toList ++ r ≠ '(' :: more := by
  intro same
  cases letters : text.toList with
  | nil =>
    rw [letters, List.nil_append] at same
    exact absurd (stops '(' ⟨more, same.symm⟩) (by decide)
  | cons c rest =>
    rw [letters] at same
    obtain ⟨rfl, -⟩ := List.cons.inj same
    exact isWord '(' (letters ▸ List.mem_cons_self) List.mem_cons_self

end

/-! ## 3. Where a form ends -/

/-- Any form that begins a text with this one is this one. -/
def ReadOnce (f : Form) : Prop :=
  ∀ {f' : Form} {r r' : List Char}, f'.Plain → Stops r → Stops r' →
    f.render ++ r = f'.render ++ r' → f = f' ∧ r = r'

/-- The next form of a row starts with a separator, or the row is over. -/
theorem stops_renderAll {mark : Char} (isMark : mark ∈ [' ', '\n']) (fs : List Form)
    {r : List Char} (stops : Stops r) : Stops (renderAll mark fs ++ r) := by
  cases fs with
  | nil => exact stops
  | cons f rest => exact stops_cons (List.mem_cons_of_mem _ isMark)

/-- If each form of the row is read in one way only, so is the row: by induction on it, the
separator before each form telling whether there is one. -/
theorem renderAll_readOnce {mark : Char} (isMark : mark ∈ [' ', '\n']) {fs : List Form}
    (once : ∀ f ∈ fs, f.ReadOnce) {fs' : List Form} (plain' : ∀ f ∈ fs', f.Plain)
    {r r' : List Char} (stops : Stops r) (stops' : Stops r') (ends : ¬[mark] <+: r)
    (ends' : ¬[mark] <+: r') (same : renderAll mark fs ++ r = renderAll mark fs' ++ r') :
    fs = fs' ∧ r = r' := by
  induction fs generalizing fs' with
  | nil =>
    cases fs' with
    | nil => exact ⟨rfl, same⟩
    | cons f' rest' => exact absurd ⟨_, same.symm⟩ ends
  | cons f rest ih =>
    cases fs' with
    | nil => exact absurd ⟨_, same⟩ ends'
    | cons f' rest' =>
      obtain ⟨first, others⟩ := List.forall_mem_cons.mp once
      obtain ⟨first', others'⟩ := List.forall_mem_cons.mp plain'
      simp only [renderAll, List.cons_append, List.append_assoc, List.cons.injEq, true_and] at same
      obtain ⟨rfl, sameOthers⟩ := first first' (stops_renderAll isMark rest stops)
        (stops_renderAll isMark rest' stops') same
      obtain ⟨rfl, left⟩ := ih others others' sameOthers
      exact ⟨rfl, left⟩

/-- A plain form is read in one way only: a word up to its mark, a group from parenthesis to
parenthesis. -/
theorem Plain.readOnce {f : Form} (plain : f.Plain) : f.ReadOnce := by
  induction plain with
  | word isWord =>
    intro f' r r' plain' stops stops' same
    cases plain' with
    | word isWord' =>
      obtain ⟨rfl, rest⟩ := isWord.split isWord' stops stops' same
      exact ⟨rfl, rest⟩
    | group isWord' plain' => exact absurd same (isWord.ne_group stops _)
  | @group head parts isWord plain ih =>
    intro f' r r' plain' stops stops' same
    cases plain' with
    | word isWord' => exact absurd same.symm (isWord'.ne_group stops' _)
    | @group head' parts' isWord' plain' =>
      have close : ∀ r, Stops (')' :: r) := fun r => stops_cons List.mem_cons_self
      have noBlank : ∀ r, ¬[' '] <+: ')' :: r := fun r first =>
        absurd (List.cons_prefix_cons.mp first).1 (by decide)
      simp only [render, List.cons_append, List.append_assoc, List.nil_append, List.cons.injEq,
        true_and] at same
      obtain ⟨rfl, sameParts⟩ := isWord.split isWord'
        (stops_renderAll List.mem_cons_self parts (close r))
        (stops_renderAll List.mem_cons_self parts' (close r')) same
      obtain ⟨rfl, left⟩ := renderAll_readOnce List.mem_cons_self ih plain' (close r) (close r')
        (noBlank r) (noBlank r') sameParts
      exact ⟨rfl, (List.cons.inj left).2⟩

/-- Forms in a row, each on a line of its own, can be read in one way only. -/
theorem renderAll_injective {fs fs' : List Form} (plain : ∀ f ∈ fs, f.Plain)
    (plain' : ∀ f ∈ fs', f.Plain) (same : renderAll '\n' fs = renderAll '\n' fs') : fs = fs' := by
  have none : ¬['\n'] <+: ([] : List Char) := fun first => by cases List.prefix_nil.mp first
  refine (renderAll_readOnce (by decide) (fun f mem => (plain f mem).readOnce) plain' stops_nil
    stops_nil none none ?_).1
  rw [List.append_nil, List.append_nil, same]

/-! ## 4. Texts in parenthesised form -/

/-- Forms in a row are each put behind a mark. -/
theorem renderAll_eq (mark : Char) (fs : List Form) :
    renderAll mark fs = (fs.map render).flatMap (mark :: ·) := by
  induction fs with
  | nil => rfl
  | cons f rest ih => rw [renderAll, ih, List.map_cons, List.flatMap_cons, List.cons_append]

/-- Texts with a mark between them are the first, and then the others with a mark in front of each.
-/
theorem toList_intercalate (mark : Char) (first : String) (rest : List String) :
    ((String.singleton mark).intercalate (first :: rest)).toList =
      first.toList ++ (rest.map String.toList).flatMap (mark :: ·) := by
  rw [String.toList_intercalate, String.toList_singleton, List.map_cons]
  induction rest generalizing first with
  | nil => simp
  | cons second rest ih =>
    rw [List.map_cons, List.intercalate_cons_cons, ih, List.flatMap_cons, List.append_assoc]
    rfl

/-- What has a head and parts in its text is a group of these. -/
theorem toList_parenthesized (head : String) {parts : List String} {fs : List Form}
    (same : fs.map render = parts.map String.toList) :
    (group head fs).render = (parenthesized head parts).toList := by
  have inside := toList_intercalate ' ' head parts
  rw [render, renderAll_eq, same, parenthesized, String.toList_append, String.toList_append]
  show _ = '(' :: ((String.singleton ' ').intercalate (head :: parts)).toList ++ [')']
  rw [inside, List.cons_append, List.append_assoc]

end Form

end Scriptlet
