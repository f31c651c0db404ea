import RuleFile.Proofs.LineBreaks
import RuleFile.Proofs.Rows
/-!
# One text behind another

A text that ends with a line feed leaves the grammar at the start of a line, or has gone wrong already
(`error_or_startsLine`).  At the start of a line at most one rule is open, and a tab alone would go on with it, so what
is read behind it is read as on its own, further down (`result_parseText_append`).

A rule that is open is complete only when the token behind it is known.  Where the next piece is no token it never is,
and the rule gets lost with it (`statements_build_append`).
-/
namespace RuleFile

open Grammar

/-! ## The first piece of a text -/

def firstLexeme? : List Char → Option Lexeme
  | []      => none
  | c :: cs => some (Lexeme.first c cs).1

theorem Spells.head?_eq {cs : List Char} {lexemes : List Lexeme} (h : Spells cs lexemes) :
    lexemes.head? = firstLexeme? cs := by
  obtain ⟨pieces, hsplit, rfl⟩ := h
  cases hsplit with
  | nil => rfl
  | @cons piece rest lexeme pieces hpiece hrest =>
    obtain ⟨c, cs, heq, hfirst⟩ := hpiece.first_eq
    rw [heq, firstLexeme?, hfirst]
    rfl

/-- Only a tab is read as one. -/
theorem kind_first_ne_tab {c : Char} {cs text : List Char} {kind : Token.Kind} {n : Nat}
    (h : (Lexeme.first c cs).1 = .token kind text n) (hc : c ≠ '\t') : kind ≠ .tab := by
  unfold Lexeme.first Lexeme.lineBreak Lexeme.literal Lexeme.run literalKind Token.Kind.ofPunctuation? at h
  grind

/-! ## The start of a line -/

namespace Grammar

/-- The rule that is open at the start of a line, if one is. -/
def State.openRules : State → List Rule
  | rule r => [r]
  | _      => []

end Grammar

/-- An account that tells first of the completion of some rules. -/
def Account.completing (rules : List Rule) (a : Account) : Account := ⟨rules.map .rule ++ a.notes, a.outcome⟩

theorem Account.result_completing (rules : List Rule) (a : Account) (program : Program) :
    (a.completing rules).result program = a.result (program.addRules rules) := by
  rw [completing, result, result]
  cases a.outcome with
  | error e => rfl
  | ok _    =>
    show Except.ok (program.addRules (Note.rules (_ ++ _))) = _
    rw [Note.rules_append, Note.rules_map_rule, Program.addRules, List.map_append, ← List.append_assoc]
    rfl

theorem behind_complete (m : Move State) (rule : Rule) (next : State → Account) :
    Account.behind (m.complete rule) next = (Account.behind m next).completing [rule] := by
  unfold Account.behind Move.complete
  cases m.result <;> rfl

theorem rules_completing_down (rules : List Rule) (rows : Nat) (a : Account) :
    Note.rules ((a.down rows).completing rules).notes = rules ++ Note.rules a.notes := by
  rw [Account.completing, Account.down, Note.rules_append, Note.rules_map_rule, rules_down]

namespace Grammar

theorem ending_of_startsLine {s : State} (hs : s.StartsLine) (p : Position) :
    Account.ending p s = ⟨s.openRules.map .rule, .ok ()⟩ := by
  cases s with
  | statement => rfl
  | rule r    => rfl
  | _         => cases hs

/-- A token that is no tab starts a statement, and completes the rule in front of it. -/
theorem behind_of_startsLine {settings : Settings} {s : State} (hs : s.StartsLine) {token : Token}
    (hk : token.kind ≠ .tab) (next : State → Account) : Account.behind (s.advance settings token) next =
      (Account.behind (State.advance settings .statement token) next).completing s.openRules := by
  cases s with
  | statement => rfl
  | rule r    =>
    have hmove : State.advance settings (.rule r) token = (startStatement token).complete r := if_neg hk
    rw [hmove]
    exact behind_complete (startStatement token) r next
  | _ => cases hs

/-- **What follows a line completes the rule in front of it**, unless it is no token or a tab. -/
theorem ofLexemes_of_startsLine {settings : Settings} {s : State} (hs : s.StartsLine) {lexemes : List Lexeme}
    (htoken : ∀ l ∈ lexemes.head?, l.isToken = true)
    (htab : ∀ kind text n, lexemes.head? = some (.token kind text n) → kind ≠ .tab) (p : Position) :
    Account.ofLexemes settings p lexemes s =
      (Account.ofLexemes settings p lexemes .statement).completing s.openRules := by
  cases lexemes with
  | nil =>
    show Account.ending p s = (Account.ending p .statement).completing s.openRules
    rw [ending_of_startsLine hs, Account.completing]
    exact congrArg (Account.mk · _) (List.append_nil _).symm
  | cons l lexemes =>
    cases l with
    | failure cause     => cases htoken _ rfl
    | token kind text n => exact behind_of_startsLine hs (htab kind text n rfl) _

end Grammar

/-! ## Whole lines -/

/-- Lexemes go wrong, whatever follows them, or are tokens with a state behind them. -/
theorem error_or_run (settings : Settings) : ∀ (lexemes : List Lexeme) (p : Position) (state : State),
    (∃ notes e, ∀ later, Account.ofLexemes settings p (lexemes ++ later) state = ⟨notes, .error e⟩) ∨
      (∀ l ∈ lexemes, l.isToken = true) ∧ ∃ s, (state.run settings (tokensAt p lexemes)).result = .ok s
  | [],                            _, state => .inr ⟨fun _ hl => (List.not_mem_nil hl).elim, state, rfl⟩
  | .failure cause :: lexemes,     p, _     => .inl ⟨[], .lex ⟨cause, p⟩, fun _ => rfl⟩
  | .token kind text n :: lexemes, p, state => by
    have hcons (later : List Lexeme) : Account.ofLexemes settings p (.token kind text n :: lexemes ++ later) state =
        .behind (state.advance settings ⟨kind, String.ofList text, n, p⟩)
          (.ofLexemes settings (p.after kind) (lexemes ++ later)) := rfl
    cases hmove : (state.advance settings ⟨kind, String.ofList text, n, p⟩).result with
    | error e =>
      exact .inl ⟨_, _, fun later => by rw [hcons, Account.behind_of_error hmove]⟩
    | ok s =>
      rcases error_or_run settings lexemes (p.after kind) s with ⟨notes, e, h⟩ | ⟨htokens, s', hrun⟩
      · left
        exact ⟨_, e, fun later => by rw [hcons, Account.behind_of_ok hmove, h later]⟩
      · right
        refine ⟨List.forall_mem_cons.2 ⟨rfl, htokens⟩, s', ?_⟩
        rw [tokensAt, State.run, Move.andThen_of_ok hmove, hrun]

/-- **Whole lines go wrong, whatever follows them, or lead to the start of a line.** -/
theorem error_or_startsLine (settings : Settings) {cs : List Char} {lexemes : List Lexeme} (h : Spells cs lexemes)
    (hend : cs.getLast? = some '\n') (p : Position) (state : State) :
    (∃ notes e, ∀ later, Account.ofLexemes settings p (lexemes ++ later) state = ⟨notes, .error e⟩) ∨
      (∀ l ∈ lexemes, l.isToken = true) ∧
        ∃ s : State, s.StartsLine ∧ (state.run settings (tokensAt p lexemes)).result = .ok s := by
  refine (error_or_run settings lexemes p state).imp_right fun ⟨htokens, s, hrun⟩ => ⟨htokens, s, ?_, hrun⟩
  obtain ⟨front, text, n, rfl⟩ := h.exists_newline hend
  rw [tokensAt_append] at hrun
  exact startsLine_of_run rfl hrun

/-! ## Texts -/

theorem withoutMark_append {cs : List Char} (hne : cs ≠ []) (later : List Char) :
    withoutMark (cs ++ later) = withoutMark cs ++ later := by
  obtain ⟨c, cs, rfl⟩ := List.exists_cons_of_ne_nil hne
  by_cases hc : c = '\ufeff'
  · subst hc
    rfl
  · have hhead (rest : List Char) : (c :: rest).head? ≠ some '\ufeff' := fun h => hc (Option.some.inj h)
    rw [withoutMark_of_head? (hhead cs), List.cons_append, withoutMark_of_head? (hhead (cs ++ later))]

theorem withoutMark_append_of_head? {cs later : List Char} (h : cs = [] → later.head? ≠ some '\ufeff') :
    withoutMark (cs ++ later) = withoutMark cs ++ later := by
  by_cases hne : cs = []
  · rw [hne, List.nil_append, withoutMark_of_head? (h hne)]
    rfl
  · exact withoutMark_append hne later

theorem mem_getLast?_withoutMark {cs : List Char} {c : Char} (hc : c ≠ '\ufeff') :
    c ∈ (withoutMark cs).getLast? ↔ c ∈ cs.getLast? := by
  unfold withoutMark
  split
  · rename_i cs
    cases cs with
    | nil      => exact ⟨nofun, fun h => absurd (Option.some.inj h).symm hc⟩
    | cons d _ => rw [List.getLast?_cons_cons]
  · rfl

theorem getLast?_withoutMark {cs : List Char} (h : cs.getLast? = some '\n') :
    (withoutMark cs).getLast? = some '\n' :=
  (mem_getLast?_withoutMark (by decide)).2 h

theorem lineBreaks_withoutMark (cs : List Char) : lineBreaks (withoutMark cs) = lineBreaks cs := by
  unfold withoutMark
  split
  · exact (lineBreaks_cons _ rfl).symm
  · rfl

section

variable {settings : Settings} {s₁ s₂ : String} {lexemes more : List Lexeme}

/-- The pieces of a text behind whole lines come behind the pieces of these. -/
theorem spells_append (hend : s₁.toList.getLast? = some '\n') (h : Spells (withoutMark s₁.toList) lexemes)
    (hmore : Spells s₂.toList more) : Spells (withoutMark (s₁ ++ s₂).toList) (lexemes ++ more) := by
  have hne : s₁.toList ≠ [] := by
    intro hnil
    rw [hnil] at hend
    cases hend
  rw [String.toList_append, withoutMark_append hne]
  exact h.append (getLast?_withoutMark hend) hmore

/-- What follows whole lines stands as many rows further down as these have line breaks. -/
theorem ofLexemes_behind (hend : s₁.toList.getLast? = some '\n') (h : Spells (withoutMark s₁.toList) lexemes)
    (htokens : ∀ l ∈ lexemes, l.isToken = true) {s : State}
    (hrun : (State.run settings .statement (tokensAt .start lexemes)).result = .ok s) :
    Account.ofLexemes settings .start (lexemes ++ more) .statement =
      ⟨(State.run settings .statement (tokensAt .start lexemes)).notes ++
          (Account.ofLexemes settings (Position.start.down (lineBreaks s₁.toList)) more s).notes,
        (Account.ofLexemes settings (Position.start.down (lineBreaks s₁.toList)) more s).outcome⟩ := by
  have hplace : placeBehind .start lexemes = Position.start.down (lineBreaks s₁.toList) := by
    rw [placeBehind_of_spells h (getLast?_withoutMark hend), lineBreaks_withoutMark]
    rfl
  rw [ofLexemes_append settings more htokens, Account.behind_of_ok hrun, hplace]

/-- The account of whole lines alone. -/
theorem ofLexemes_whole (htokens : ∀ l ∈ lexemes, l.isToken = true) {s : State} (hs : s.StartsLine)
    (hrun : (State.run settings .statement (tokensAt .start lexemes)).result = .ok s) :
    Account.ofLexemes settings .start lexemes .statement =
      ⟨(State.run settings .statement (tokensAt .start lexemes)).notes ++ s.openRules.map .rule, .ok ()⟩ := by
  rw [ofLexemes_tokens htokens, Account.behind_of_ok hrun, ending_of_startsLine hs]

end

/-! ## What follows whole lines -/

/-- The first piece of a text is no token. -/
def startsWithError (text : String) : Bool := (firstLexeme? text.toList).any (!·.isToken)

section

variable {text : String} {lexemes : List Lexeme}

theorem exists_failure_of_startsWithError (h : Spells text.toList lexemes) (herror : startsWithError text = true) :
    ∃ cause later, lexemes = .failure cause :: later := by
  rw [startsWithError, ← h.head?_eq] at herror
  cases lexemes with
  | nil            => cases herror
  | cons l lexemes =>
    cases l with
    | failure cause => exact ⟨cause, lexemes, rfl⟩
    | token _ _ _   => cases herror

theorem isToken_head?_of_startsWithError (h : Spells text.toList lexemes) (herror : startsWithError text = false) :
    ∀ l ∈ lexemes.head?, l.isToken = true := by
  intro l hl
  rw [startsWithError, ← h.head?_eq, Option.mem_def.1 hl, Option.any_some, Bool.not_eq_false'] at herror
  exact herror

theorem startsWithError_of_outcome {settings : Settings} {p : Position} {state : State}
    (h : Spells text.toList lexemes) (hok : (Account.ofLexemes settings p lexemes state).outcome = .ok ()) :
    startsWithError text = false := by
  cases herror : startsWithError text with
  | false => rfl
  | true  =>
    obtain ⟨cause, later, rfl⟩ := exists_failure_of_startsWithError h herror
    cases hok

theorem kind_head?_ne_tab (h : Spells text.toList lexemes) (htab : text.toList.head? ≠ some '\t') :
    ∀ kind name n, lexemes.head? = some (.token kind name n) → kind ≠ .tab := by
  intro kind name n hhead
  rw [h.head?_eq] at hhead
  cases hcs : text.toList with
  | nil       => rw [hcs] at hhead; cases hhead
  | cons c cs =>
    rw [hcs] at hhead htab
    exact kind_first_ne_tab (Option.some.inj hhead) fun hc => htab (congrArg some hc)

/-- What is told of a text at the start of a line is the same as on its own, further down and behind the rule that is
open there; this one is lost if the first piece of the text is no token. -/
theorem ofLexemes_of_spells {settings : Settings} {s : State} (hs : s.StartsLine) (h : Spells text.toList lexemes)
    (htab : text.toList.head? ≠ some '\t') (rows : Nat) :
    Account.ofLexemes settings (Position.start.down rows) lexemes s =
      ((Account.ofLexemes settings .start lexemes .statement).down rows).completing
        (if startsWithError text then [] else s.openRules) := by
  have hdown : Account.ofLexemes settings (Position.start.down rows) lexemes .statement =
      (Account.ofLexemes settings .start lexemes .statement).down rows := ofLexemes_down lexemes .start .statement
  cases herror : startsWithError text with
  | true =>
    obtain ⟨cause, later, rfl⟩ := exists_failure_of_startsWithError h herror
    rfl
  | false =>
    rw [← hdown]
    exact ofLexemes_of_startsLine hs (isToken_head?_of_startsWithError h herror) (kind_head?_ne_tab h htab) _

end

/-! ## Reading on -/

theorem addRules_append (rules later : List Rule) : Program.empty.addRules (rules ++ later) =
    ⟨(Program.empty.addRules rules).statements ++ (Program.empty.addRules later).statements, .empty⟩ := by
  rw [Program.addRules, List.map_append, Program.addRules, Program.addRules]
  rfl

/-- **A text behind whole lines is read as on its own.**  An error in the lines stays as it is.  If there is none, the
rules of both come one behind the other, and an error in what follows is the same so many rows further down. -/
theorem result_parseText_append (settings : Settings) (s₁ s₂ : String) (hend : s₁.toList.getLast? = some '\n')
    (hstart : ∀ c ∈ s₂.toList.head?, c ≠ '\t' ∧ c ≠ '\ufeff') :
    (∀ e, (parseText settings s₁).result = .error e → (parseText settings (s₁ ++ s₂)).result = .error e) ∧
    (∀ p₁ p₂, (parseText settings s₁).result = .ok p₁ → (parseText settings s₂).result = .ok p₂ →
      (parseText settings (s₁ ++ s₂)).result = .ok ⟨p₁.statements ++ p₂.statements, .empty⟩) ∧
    (∀ p₁ e, (parseText settings s₁).result = .ok p₁ → (parseText settings s₂).result = .error e →
      (parseText settings (s₁ ++ s₂)).result = .error (e.down (lineBreaks s₁.toList))) := by
  have htab : s₂.toList.head? ≠ some '\t' := fun h => (hstart _ h).1 rfl
  obtain ⟨lexemes, h₁⟩ := exists_spells (withoutMark s₁.toList)
  obtain ⟨more, h₂⟩ := exists_spells s₂.toList
  have hmarked : Spells (withoutMark s₂.toList) more := by
    rwa [withoutMark_of_head? fun h => (hstart _ h).2 rfl]
  rw [result_parseText_of_lexemes settings h₁, result_parseText_of_lexemes settings hmarked,
    result_parseText_of_lexemes settings (spells_append hend h₁ h₂)]
  rcases error_or_startsLine settings h₁ (getLast?_withoutMark hend) .start .statement with
    ⟨notes, e, herror⟩ | ⟨htokens, s, hs, hrun⟩
  · -- what goes wrong in the lines goes wrong with nothing behind them as well
    have hfirst := herror []
    rw [List.append_nil] at hfirst
    rw [hfirst, herror more]
    exact ⟨fun _ h => h, fun _ _ h => (by cases h), fun _ _ h => (by cases h)⟩
  · rw [ofLexemes_whole htokens hs hrun, ofLexemes_behind hend h₁ htokens hrun, ofLexemes_of_spells hs h₂ htab]
    refine ⟨fun _ h => (by cases h), fun p₁ p₂ hp₁ hp₂ => ?_, fun p₁ e _ he => ?_⟩
    · obtain ⟨-, rfl⟩ := Account.result_eq_ok.1 hp₁
      obtain ⟨hok, rfl⟩ := Account.result_eq_ok.1 hp₂
      have hno := startsWithError_of_outcome h₂ hok
      refine Account.result_eq_ok.2 ⟨congrArg (Except.mapError (Error.down (lineBreaks s₁.toList))) hok, ?_⟩
      show Program.mk _ _ = Program.empty.addRules (Note.rules (_ ++ _))
      rw [hno, if_neg Bool.false_ne_true, Note.rules_append, Note.rules_append, Note.rules_map_rule,
        rules_completing_down, ← List.append_assoc]
      exact (addRules_append _ _).symm
    · have herror := Account.result_eq_error.1 he
      exact Account.result_eq_error.2 (congrArg (Except.mapError (Error.down (lineBreaks s₁.toList))) herror)

/-- Behind two line breaks, an assignment that strict settings reject and a rule; and a rule behind an error. -/
theorem result_parseText_assignmentBehind :
    (parseText ⟨true, ""⟩ ("a:\r\n'x\n" ++ "c = d")).result = .error (.parse ⟨.unsupportedAssignment "c", ⟨2, 0⟩⟩) ∧
    (parseText ⟨true, ""⟩ ("a:\r\n'x\n" ++ "c:")).result =
      .ok ⟨[.rule (.named "a"), .rule (.named "c")], .empty⟩ ∧
    (parseText ⟨true, ""⟩ ("a:1\n" ++ "c:")).result =
      .error (.parse ⟨.unexpectedToken .number lineKinds, ⟨0, 2⟩⟩) := by
  have hlines : (parseText ⟨true, ""⟩ "a:\r\n'x\n").result = .ok ⟨[.rule (.named "a")], .empty⟩ := by cbv
  have hassignment : (parseText ⟨true, ""⟩ "c = d").result =
      .error (.parse ⟨.unsupportedAssignment "c", ⟨0, 0⟩⟩) := by cbv
  have hrule : (parseText ⟨true, ""⟩ "c:").result = .ok ⟨[.rule (.named "c")], .empty⟩ := by cbv
  have hnumber : (parseText ⟨true, ""⟩ "a:1\n").result =
      .error (.parse ⟨.unexpectedToken .number lineKinds, ⟨0, 2⟩⟩) := by cbv
  have hstart {s : String} (h : s.toList.head? = some 'c') : ∀ c ∈ s.toList.head?, c ≠ '\t' ∧ c ≠ '\ufeff' := by
    intro c hc
    rw [h] at hc
    cases hc
    decide
  have hbehind := result_parseText_append ⟨true, ""⟩ "a:\r\n'x\n" "c = d" (by decide) (hstart (by decide))
  have hrules := result_parseText_append ⟨true, ""⟩ "a:\r\n'x\n" "c:" (by decide) (hstart (by decide))
  have hwrong := result_parseText_append ⟨true, ""⟩ "a:1\n" "c:" (by decide) (hstart (by decide))
  exact ⟨hbehind.2.2 _ _ hlines hassignment, hrules.2.1 _ _ hlines hrule, hwrong.1 _ hnumber⟩

/-! ## What a failing build keeps -/

/-- Behind the last of its lines, a text has a rule open. -/
def leavesRuleOpen (settings : Settings) (text : String) : Bool :=
  match tokenize text with
  | .error _   => false
  | .ok tokens => (State.run settings .statement tokens).result.toOption.any (!·.openRules.isEmpty)

theorem leavesRuleOpen_of_run {settings : Settings} {text : String} {lexemes : List Lexeme}
    (h : Spells (withoutMark text.toList) lexemes) (htokens : ∀ l ∈ lexemes, l.isToken = true) {s : State}
    (hrun : (State.run settings .statement (tokensAt .start lexemes)).result = .ok s) :
    leavesRuleOpen settings text = !s.openRules.isEmpty := by
  rw [leavesRuleOpen, tokenize_eq_tokensOf h, tokensOf_of_isToken htokens]
  show (Except.toOption _).any _ = _
  rw [hrun]
  rfl

/-- The rules of whole lines are complete, but for one that may be open: this one is kept unless what follows is no
token. -/
theorem exists_openRules {p₁ : Program} {settings : Settings} {s₁ s₂ : String} (p₀ : Program)
    (hend : s₁.toList.getLast? = some '\n') (h₁ : (parseText settings s₁).result = .ok p₁)
    (htab : s₂.toList.head? ≠ some '\t') :
    ∃ complete openRules later : List Rule, openRules.length ≤ 1 ∧
      leavesRuleOpen settings s₁ = !openRules.isEmpty ∧
      p₁.statements = (complete ++ openRules).map .rule ∧
      (p₀.build settings (Scanner.ofText (s₁ ++ s₂))).program.statements = p₀.statements ++
        (complete ++ ((if startsWithError s₂ then [] else openRules) ++ later)).map .rule ∧
      (startsWithError s₂ = true → later = [] ∧ ∃ cause,
        (p₀.build settings (Scanner.ofText (s₁ ++ s₂))).outcome =
          .error (.lex ⟨cause, ⟨lineBreaks s₁.toList, 0⟩⟩)) := by
  obtain ⟨lexemes, hlexemes⟩ := exists_spells (withoutMark s₁.toList)
  obtain ⟨more, hmore⟩ := exists_spells s₂.toList
  have hboth := account_parseText settings (spells_append hend hlexemes hmore) .statement
  rw [result_parseText_of_lexemes settings hlexemes] at h₁
  rcases error_or_startsLine settings hlexemes (getLast?_withoutMark hend) .start .statement with
    ⟨notes, e, herror⟩ | ⟨htokens, s, hs, hrun⟩
  · have hfirst := herror []
    rw [List.append_nil] at hfirst
    rw [hfirst] at h₁
    cases h₁
  rw [ofLexemes_whole htokens hs hrun] at h₁
  rw [ofLexemes_behind hend hlexemes htokens hrun, ofLexemes_of_spells hs hmore htab] at hboth
  obtain ⟨-, rfl⟩ := Account.result_eq_ok.1 h₁
  refine ⟨Note.rules (State.run settings .statement (tokensAt .start lexemes)).notes, s.openRules,
    Note.rules (Account.ofLexemes settings .start more .statement).notes, ?_,
    leavesRuleOpen_of_run hlexemes htokens hrun, ?_, ?_, ?_⟩
  · cases s <;> simp [State.openRules]
  · show (Program.empty.addRules (Note.rules (_ ++ _))).statements = _
    rw [Note.rules_append, Note.rules_map_rule]
    rfl
  · have hnotes := congrArg (fun a : Account => Note.rules a.notes) hboth
    simp only [Note.rules_append, rules_completing_down] at hnotes
    exact congrArg (fun rules => (p₀.addRules rules).statements) hnotes
  · intro herror
    obtain ⟨cause, later, rfl⟩ := exists_failure_of_startsWithError hmore herror
    have hplace : Position.start.down (lineBreaks s₁.toList) = ⟨lineBreaks s₁.toList, 0⟩ :=
      congrArg (Position.mk · 0) (Nat.zero_add _)
    have houtcome : (p₀.build settings (Scanner.ofText (s₁ ++ s₂))).outcome =
        .error (.lex ⟨cause, Position.start.down (lineBreaks s₁.toList)⟩) := congrArg Account.outcome hboth
    rw [hplace] at houtcome
    exact ⟨rfl, cause, houtcome⟩

/-- **The rules of whole lines stay, whatever goes wrong behind them, but for the one case** in which the last of them
is still open and the next piece is no token: then that rule is lost, and no other. -/
theorem statements_build_append (p₀ p₁ : Program) (settings : Settings) (s₁ s₂ : String)
    (hend : s₁.toList.getLast? = some '\n') (h₁ : (parseText settings s₁).result = .ok p₁)
    (htab : s₂.toList.head? ≠ some '\t') :
    (p₀.statements ++ p₁.statements <+: (p₀.build settings (Scanner.ofText (s₁ ++ s₂))).program.statements ↔
      ¬ (leavesRuleOpen settings s₁ = true ∧ startsWithError s₂ = true)) ∧
    (leavesRuleOpen settings s₁ = true → startsWithError s₂ = true →
      (p₀.build settings (Scanner.ofText (s₁ ++ s₂))).program.statements =
        p₀.statements ++ p₁.statements.dropLast ∧
      ∃ cause, (p₀.build settings (Scanner.ofText (s₁ ++ s₂))).outcome =
        .error (.lex ⟨cause, ⟨lineBreaks s₁.toList, 0⟩⟩)) := by
  obtain ⟨complete, openRules, later, hlength, hopen, hp₁, hbuilt, hlost⟩ := exists_openRules p₀ hend h₁ htab
  rw [hopen, hp₁, hbuilt]
  cases herror : startsWithError s₂ with
  | false =>
    have hprefix : (complete ++ openRules).map Statement.rule <+: (complete ++ (openRules ++ later)).map .rule := by
      rw [← List.append_assoc]
      exact (List.prefix_append _ later).map Statement.rule
    refine ⟨⟨fun _ h => Bool.false_ne_true h.2, fun _ => ?_⟩, fun _ h => (Bool.false_ne_true h).elim⟩
    exact (List.prefix_append_right_inj _).2 hprefix
  | true =>
    obtain ⟨rfl, houtcome⟩ := hlost herror
    match openRules, hlength with
    | [],     _ =>
      refine ⟨⟨fun _ h => Bool.false_ne_true h.1, fun _ => ?_⟩, fun h => (Bool.false_ne_true h).elim⟩
      exact List.prefix_refl _
    | [rule], _ =>
      -- a text of fewer rules has no such prefix
      have hlast : ((complete ++ [rule]).map Statement.rule).dropLast = complete.map .rule := by
        rw [List.map_append]
        exact List.dropLast_concat
      refine ⟨⟨fun h _ => ?_, fun h => absurd ⟨rfl, rfl⟩ h⟩, fun _ _ => ⟨?_, houtcome⟩⟩
      · have hshorter := h.length_le
        simp only [if_pos, List.length_append, List.length_map, List.length_cons, List.length_nil] at hshorter
        omega
      · rw [hlast]
        simp

/-- The rules of `a:b` with a recipe line `c`, and of `d:`. -/
def twoRules : Program :=
  ⟨[.rule (((Rule.named "a").prerequisite "b").command [.identifier "c"]), .rule (.named "d")], .empty⟩

/-- A caret where a line starts, and one behind a name. -/
theorem statements_build_caret :
    (parseText {} "a:b\n\tc\nd:\n").result = .ok twoRules ∧
    leavesRuleOpen {} "a:b\n\tc\nd:\n" = true ∧ startsWithError "^" = true ∧ startsWithError "e^" = false ∧
    (Program.empty.build {} (Scanner.ofText ("a:b\n\tc\nd:\n" ++ "^"))).program.statements =
      twoRules.statements.dropLast ∧
    twoRules.statements <+:
      (Program.empty.build {} (Scanner.ofText ("a:b\n\tc\nd:\n" ++ "e^"))).program.statements := by
  have hread : (parseText {} "a:b\n\tc\nd:\n").result = .ok twoRules := by cbv
  have hopen : leavesRuleOpen {} "a:b\n\tc\nd:\n" = true := by cbv
  have hcaret : startsWithError "^" = true := by cbv
  have hname : startsWithError "e^" = false := by cbv
  have hend : "a:b\n\tc\nd:\n".toList.getLast? = some '\n' := by decide
  have hlost := (statements_build_append .empty _ {} _ "^" hend hread (by decide)).2 hopen hcaret
  have hkept := (statements_build_append .empty _ {} _ "e^" hend hread (by decide)).1.2 fun h => by
    rw [hname] at h
    cases h.2
  exact ⟨hread, hopen, hcaret, hname, hlost.1, hkept⟩

/-- A rule that was read whole is lost to what stands in the line behind it. -/
theorem not_forall_statements_kept :
    ¬ ∀ (p₀ p₁ : Program) (settings : Settings) (s₁ s₂ : String), s₁.toList.getLast? = some '\n' →
      (parseText settings s₁).result = .ok p₁ → s₂.toList.head? ≠ some '\t' →
      p₀.statements ++ p₁.statements <+: (p₀.build settings (Scanner.ofText (s₁ ++ s₂))).program.statements := by
  intro h
  have hread : (parseText {} "a: b\n").result = .ok ⟨[.rule ((Rule.named "a").prerequisite "b")], .empty⟩ := by cbv
  have hnone : (Program.empty.build {} (Scanner.ofText ("a: b\n" ++ "^"))).program.statements = [] := by cbv
  have hkept := h .empty _ {} "a: b\n" "^" (by decide) hread (by decide)
  rw [hnone] at hkept
  cases List.prefix_nil.1 hkept

end RuleFile
