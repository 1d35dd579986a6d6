/-
Scriptlet.Proofs.Layout.Counterparts — the layout of a script does not matter.

Two texts that are scanned to the same kinds and lexemes differ in blanks and comments
alone. Their tokens correspond one by one, and since no two tokens of a text are the
same, there is an exchange of tokens that makes the ones into the others
(`Token.counterpart`). It keeps what the grammar looks at, a token carries what its
lexeme says. So the one tree is the other with its tokens exchanged, and so is whatever
goes wrong with it, in the grammar or in a run.
-/
import Scriptlet.Proofs.Layout.Reading
import Scriptlet.Proofs.Layout.Running
import Scriptlet.Proofs.Session.Positions
import Scriptlet.Proofs.Session.Silent

namespace Scriptlet

/-! ## 1. Tokens that correspond -/

/-- What stands in the second list where the token stands in the first. -/
def Token.counterpart (ts us : List Token) (t : Token) : Token := (us[ts.idxOf t]?).getD t

def Token.shape (t : Token) : Token.Kind × String := (t.kind, t.lexeme)

namespace Token

variable {ts us : List Token}

/-- A list without repetitions is exchanged for any other list of its length. -/
theorem map_counterpart (distinct : ts.Nodup) (length : us.length = ts.length) :
    ts.map (counterpart ts us) = us := by
  refine List.ext_getElem (by simp [length]) fun k inside inside' => ?_
  have bound : k < ts.length := length ▸ inside'
  have index : ts.idxOf ts[k] = k := distinct.idxOf_getElem k bound
  rw [List.getElem_map, counterpart, index, List.getElem?_eq_getElem inside']
  rfl

/-- A token and its counterpart carry what their lexemes say, and their lexemes are the same. -/
theorem keeps_counterpart (same : us.map shape = ts.map shape)
    (scanned : ∀ t ∈ ts, t.payload = t.kind.payload t.lexeme.toList)
    (scanned' : ∀ u ∈ us, u.payload = u.kind.payload u.lexeme.toList) :
    Keeps (counterpart ts us) := by
  have shapes : ∀ t, (counterpart ts us t).kind = t.kind ∧
      (counterpart ts us t).lexeme = t.lexeme ∧ (counterpart ts us t).payload = t.payload := by
    intro t
    unfold counterpart
    cases found : us[ts.idxOf t]? with
    | none => exact ⟨rfl, rfl, rfl⟩
    | some u =>
      -- The counterpart stands at the index of the token, and so do their shapes.
      have alike := congrArg (fun shapes => shapes[ts.idxOf t]?) same
      simp only [List.getElem?_map, found, Option.map_some] at alike
      obtain ⟨t', standing, shape⟩ := Option.map_eq_some_iff.mp alike.symm
      obtain ⟨inside, rfl⟩ := List.getElem?_eq_some_iff.mp standing
      rw [List.getElem_idxOf] at shape
      have mem : t ∈ ts := List.idxOf_lt_length_iff.mp inside
      obtain ⟨kind, lexeme⟩ := Prod.mk.inj shape
      refine ⟨kind.symm, lexeme.symm, ?_⟩
      show u.payload = t.payload
      rw [scanned t mem, scanned' u (List.mem_of_getElem? found), kind, lexeme]
  exact ⟨fun t => (shapes t).1, fun t => (shapes t).2.2, fun t => (shapes t).2.1⟩

end Token

namespace Scan

/-- What a token carries is read off its kind and its text. -/
theorem payload_of_mem {text : String} :
    ∀ t ∈ (ofText text).tokens, t.payload = t.kind.payload t.lexeme.toList := by
  intro t mem
  obtain mem | rfl := mem_tokens.mp mem
  · exact (exact_of_mem mem).payload
  · rfl

/-- A token that is not empty does not start where it stops, and the end marker starts last. -/
theorem tokens_nodup (text : String) : (ofText text).tokens.Nodup := by
  have row := Scan.row text
  refine List.nodup_append.mpr ⟨?_, List.nodup_cons.mpr ⟨by simp, .nil⟩, ?_⟩
  · refine row.inOrder.imp_of_mem fun {t u} mem _ le same => ?_
    have filled := row.filled t mem
    rw [← same] at le
    omega
  · intro t mem u isFinish same
    rw [List.mem_singleton.mp isFinish] at same
    obtain ⟨filled, inside⟩ := (exact_of_mem mem).inside
    have start : t.start = text.toList.length := congrArg Token.start same
    omega

/-- If all tokens are exchanged, then those of the body are, and the end marker is. -/
theorem stream_of_tokens {t u : String} {f : Token → Token}
    (tokens : (ofText u).tokens = (ofText t).tokens.map f) :
    (ofText u).stream = (ofText t).stream.mapTokens f := by
  rw [Scan.tokens, Scan.tokens, List.map_append] at tokens
  obtain ⟨body, finish⟩ := List.append_inj' tokens rfl
  rw [Scan.stream, body, (List.cons.inj finish).1]
  rfl

end Scan

/-! ## 2. Nodes that correspond -/

namespace Phrase

variable (f : Token → Token)

theorem children_mapTokens (node : Phrase) :
    (node.mapTokens f).children = node.children.map (mapTokens f) := by
  have block : ∀ ss : List Stmt, (Stmt.mapAll f ss).map Phrase.stmt =
      (ss.map Phrase.stmt).map (mapTokens f) := by
    intro ss
    induction ss with
    | nil => rfl
    | cons s rest ih => simp [Stmt.mapAll, mapTokens, ih]
  cases node with
  | expr e => cases e <;> rfl
  | stmt s =>
    cases s with
    | declare keyword name target value semicolon => cases value <;> rfl
    | block b =>
      obtain ⟨opening, body, closing⟩ := b
      exact block body
    | _ => rfl

/-- The nodes of a tree and of the tree with its tokens exchanged correspond, in order. -/
theorem phrases_mapTokens (node : Phrase) :
    (node.mapTokens f).phrases = node.phrases.map (mapTokens f) :=
  phrases_map (children_mapTokens f) node

end Phrase

/-- The nodes of a script with its tokens exchanged, in order. -/
theorem Stmt.phrasesAll_mapAll (f : Token → Token) (ss : List Stmt) :
    phrasesAll (mapAll f ss) = (phrasesAll ss).map (Phrase.mapTokens f) := by
  induction ss with
  | nil => rfl
  | cons s rest ih =>
    rw [mapAll, phrasesAll_cons, phrasesAll_cons, List.map_append, ih]
    exact congrArg (· ++ _) (Phrase.phrases_mapTokens f (.stmt s))

theorem Stmt.length_mapAll (f : Token → Token) (ss : List Stmt) :
    (mapAll f ss).length = ss.length := by
  induction ss with
  | nil => rfl
  | cons s rest ih => simp [mapAll, ih]

/-! ## 3. Runs that correspond -/

structure Run.Counterparts (f : Token → Token) (r : Report) (text : String) (run run' : Run) :
    Prop where
  out : run'.out = run.out
  env : run'.env = run.env
  verdict : run'.verdict = run.verdict
  notes : run'.notes = run.notes
  issues :
    (run.report.issues = r.issues ∧ run'.report.issues = r.issues) ∨
    (∃ e, Program.ofStream (Scan.ofText text).stream = .error e ∧
      run.report.issues = r.issues.push (.ofParse e) ∧
      run'.report.issues = r.issues.push (.ofParse (e.mapTokens f))) ∨
    ∃ (p : Program) (fault fault' : Fault) (k : Nat),
      Program.ofStream (Scan.ofText text).stream = .ok p ∧
      run.report.issues = r.issues.push (.ofFault fault) ∧
      run'.report.issues = r.issues.push (.ofFault fault') ∧
      fault'.cause = fault.cause ∧ (Stmt.phrasesAll p)[k]? = some fault.site ∧
      (Stmt.phrasesAll (Stmt.mapAll f p))[k]? = some fault'.site

/-- The second text is read, and runs, as the first does with its tokens exchanged: it is
accepted as the same tree, or refused at the token with the same number, for the same reason. -/
structure Text.Counterparts (f : Token → Token) (t u : String) : Prop where
  keeps : Token.Keeps f
  distinct : (Scan.ofText t).tokens.Nodup ∧ (Scan.ofText u).tokens.Nodup
  tokens : (Scan.ofText u).tokens = (Scan.ofText t).tokens.map f
  accepted : ∀ (r : Report) (p : Program), (r.review Program.ofStream t).outcome = .accepted p →
    (r.review Program.ofStream u).outcome = .accepted (Stmt.mapAll f p)
  refused : ∀ e, Program.ofStream (Scan.ofText t).stream = .error e →
    ∃ (e' : ParseError) (k : Nat), Program.ofStream (Scan.ofText u).stream = .error e' ∧
      e'.message = e.message ∧ (Scan.ofText t).tokens[k]? = some e.token ∧
      (Scan.ofText u).tokens[k]? = some e'.token ∧
      ∀ r : Report, (r.review Program.ofStream t).report = r.adding [.ofParse e] ∧
        (r.review Program.ofStream u).report = r.adding [.ofParse e'] ∧
        (r.review Program.ofStream u).outcome = (r.review Program.ofStream t).outcome
  runs : ∀ (r : Report) rounds filename filename' env, Run.Counterparts f r t
    (r.run rounds t filename env) (r.run rounds u filename' env)

section

variable {f : Token → Token} {t u : String}

/-- To exchange tokens is to exchange those of the tree, or those of the error. -/
theorem Scan.ofStream_counterpart (keeps : Token.Keeps f)
    (tokens : (Scan.ofText u).tokens = (Scan.ofText t).tokens.map f) :
    Program.ofStream (Scan.ofText u).stream =
      match Program.ofStream (Scan.ofText t).stream with
      | .ok p => .ok (Stmt.mapAll f p)
      | .error e => .error (e.mapTokens f) := by
  rw [stream_of_tokens tokens]
  exact Program.ofStream_mapTokens keeps _

/-- The error is at a token, and at its counterpart, which has the same number. -/
theorem ParseError.same_index (tokens : (Scan.ofText u).tokens = (Scan.ofText t).tokens.map f)
    {e : ParseError} (refusal : Program.ofStream (Scan.ofText t).stream = .error e) :
    ∃ k : Nat, (Scan.ofText t).tokens[k]? = some e.token ∧
      (Scan.ofText u).tokens[k]? = some (e.mapTokens f).token := by
  have mem := Scan.mem_tokens.mpr (ParseError.token_mem refusal)
  obtain ⟨k, found⟩ := List.mem_iff_getElem?.mp mem
  refine ⟨k, found, ?_⟩
  rw [tokens, List.getElem?_map, found, ParseError.token_mapTokens]
  rfl

/-- The node to blame has a number in the tree. -/
theorem Fault.exists_index {p : Program} {rounds : Nat} {st : State} {fault : Fault}
    (failed : (Stmt.execAll rounds p st).1 = .failed fault) :
    ∃ k : Nat, (Stmt.phrasesAll p)[k]? = some fault.site := by
  obtain ⟨site, same, mem, -⟩ := Stmt.execAll_fits rounds p st fault failed
  rw [← same] at mem
  exact List.mem_iff_getElem?.mp mem

/-- The node to blame has the same number in a tree and in the tree with its tokens exchanged. -/
theorem Fault.same_index {p : Program} {rounds : Nat} {st st' : State} {fault : Fault}
    (run : Stmt.execAll rounds p st = (.failed fault, st')) (f : Token → Token) :
    ∃ k : Nat, (Stmt.phrasesAll p)[k]? = some fault.site ∧
      (Stmt.phrasesAll (Stmt.mapAll f p))[k]? = some (fault.mapTokens f).site := by
  obtain ⟨k, found⟩ := Fault.exists_index (congrArg Prod.fst run)
  refine ⟨k, found, ?_⟩
  rw [Stmt.phrasesAll_mapAll, List.getElem?_map, found]
  rfl

/-- From here on both runs execute, one of them the tree with its tokens exchanged. -/
theorem Run.counterparts_conclude {r : Report} {text : String} {p : Program}
    (read : Program.ofStream (Scan.ofText text).stream = .ok p) (source source' : Source)
    (notes : String) (rounds : Nat) (env : Environment) :
    Run.Counterparts f r text
      ({ r with source }.conclude notes (Stmt.execAll rounds p { env, out := "" }))
      ({ r with source := source' }.conclude notes
        (Stmt.execAll rounds (Stmt.mapAll f p) { env, out := "" })) := by
  rw [Stmt.execAll_mapAll]
  cases run : Stmt.execAll rounds p { env, out := "" } with
  | mk ending st =>
    cases ending with
    | done => exact ⟨rfl, rfl, rfl, rfl, .inl ⟨rfl, rfl⟩⟩
    | unfinished => exact ⟨rfl, rfl, rfl, rfl, .inl ⟨rfl, rfl⟩⟩
    | failed fault =>
      obtain ⟨k, site, site'⟩ := Fault.same_index run f
      rw [Ending.mapTokens, Report.conclude_failed, Report.conclude_failed]
      exact ⟨rfl, rfl, rfl, rfl, .inr (.inr ⟨p, fault, fault.mapTokens f, k, read, rfl, rfl, rfl,
        site, site'⟩)⟩

/-- Both texts are scanned without errors, so what is filed comes from the grammar or from the run.
-/
theorem Run.counterparts (keeps : Token.Keeps f)
    (tokens : (Scan.ofText u).tokens = (Scan.ofText t).tokens.map f)
    (silent : (Scan.ofText t).errors = []) (silent' : (Scan.ofText u).errors = []) (r : Report)
    (rounds : Nat) (filename filename' : Option String) (env : Environment) :
    Run.Counterparts f r t (r.run rounds t filename env) (r.run rounds u filename' env) := by
  have note : r.scanNote u = r.scanNote t := by
    rw [Report.scanNote, Report.scanNote, tokens, List.length_map]
  have read' := Scan.ofStream_counterpart keeps tokens
  cases read : Program.ofStream (Scan.ofText t).stream with
  | error e =>
    rw [read] at read'
    rw [Report.run_of_refusal rounds filename env silent read,
      Report.run_of_refusal rounds filename' env silent' read']
    exact ⟨rfl, rfl, rfl, note, .inr (.inl ⟨e, read, rfl, rfl⟩)⟩
  | ok p =>
    rw [read] at read'
    rw [Report.run_of_program rounds filename env silent read,
      Report.run_of_program rounds filename' env silent' read', note, Stmt.length_mapAll]
    split
    · exact ⟨rfl, rfl, rfl, rfl, .inl ⟨rfl, rfl⟩⟩
    · exact Run.counterparts_conclude read _ _ _ rounds env

end

/-- Two texts that are scanned without errors, to the same kinds and lexemes in the same
order, are read alike and run alike: there is an exchange of tokens that makes the tokens of
the one into those of the other, and with them its tree, its error, and its fault. -/
theorem layout_irrelevant (t u : String) (silent : (Scan.ofText t).errors = [])
    (silent' : (Scan.ofText u).errors = [])
    (same : (Scan.ofText u).tokens.map Token.shape = (Scan.ofText t).tokens.map Token.shape) :
    ∃ f, Text.Counterparts f t u := by
  have length : (Scan.ofText u).tokens.length = (Scan.ofText t).tokens.length := by
    have lengths := congrArg List.length same
    rwa [List.length_map, List.length_map] at lengths
  have keeps := Token.keeps_counterpart same Scan.payload_of_mem Scan.payload_of_mem
  have tokens := (Token.map_counterpart (Scan.tokens_nodup t) length).symm
  refine ⟨_, keeps, ⟨Scan.tokens_nodup t, Scan.tokens_nodup u⟩, tokens, ?accepted, ?refused,
    Run.counterparts keeps tokens silent silent'⟩
  case accepted =>
    intro r p accepted
    have read := Report.review_eq_accepted accepted
    refine Report.review_of_silent_scan r silent' ?_
    rw [Scan.ofStream_counterpart keeps tokens, read]
  case refused =>
    intro e refusal
    have refusal' := Scan.ofStream_counterpart keeps tokens
    rw [refusal] at refusal'
    obtain ⟨k, index, index'⟩ := ParseError.same_index tokens refusal
    refine ⟨_, k, refusal', ParseError.message_mapTokens keeps e, index, index', fun r => ?_⟩
    rw [Report.review_of_refusal silent refusal, Report.review_of_refusal silent' refusal']
    exact ⟨rfl, rfl, rfl⟩

/-- A line break after the minus sign changes nothing but places. -/
theorem layout_irrelevant_broken :
    ((Scan.ofText "-\"\";").errors = [] ∧ (Scan.ofText "-\n\"\";").errors = [] ∧
      (Scan.ofText "-\n\"\";").tokens.map Token.shape =
        (Scan.ofText "-\"\";").tokens.map Token.shape) ∧
      ∃ f, Text.Counterparts f "-\"\";" "-\n\"\";" := by
  have silent := congrArg Scan.errors scan_negation_statement
  obtain ⟨body, silent'⟩ := scan_broken_statement
  have same : (Scan.ofText "-\n\"\";").tokens.map Token.shape =
      (Scan.ofText "-\"\";").tokens.map Token.shape := by
    rw [Scan.tokens, Scan.tokens, body, scan_negation_statement]
    rfl
  exact ⟨⟨silent, silent', same⟩, layout_irrelevant _ _ silent silent' same⟩

end Scriptlet
