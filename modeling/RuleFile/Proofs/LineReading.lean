import RuleFile.Proofs.Lines
import RuleFile.Proofs.Runs
/-!
# Reading a stream is reading its lines

The machine of the grammar looks at one token after the other and never at a line as such.  Here its run over the
tokens of one line is compared with the reading of that line (`throughLine_statement`, `throughLine_rule`), and its run
over all tokens with the reading of all lines (`outcome_eq_readLines`).  At the end of a line it is in one of two
states, `statement` and `rule`, and this is the bit that `readLines` carries; a rule that the machine keeps open is the
same rule with its recipe still to come.
-/
namespace RuleFile.Lines

open Grammar Move

abbrev Outcome := Except ParseError (List Rule)

/-! ## Moves that are followed by others -/

/-- A move, and then what comes of the state it leads to. -/
def into (m : Move State) (next : State → Outcome) : Outcome :=
  m.result >>= fun state => (next state).map (Note.rules m.notes ++ ·)

theorem map_id (o : Outcome) : o.map (fun rules => rules) = o := by cases o <;> rfl

theorem into_goTo (state : State) (next : State → Outcome) : into (goTo state) next = next state :=
  map_id (next state)

theorem into_reject (cause : ParseError.Cause) (p : Position) (next : State → Outcome) :
    into (reject cause p) next = .error ⟨cause, p⟩ := rfl

theorem into_report (m : Move State) (event : Event) (next : State → Outcome) :
    into (m.report event) next = into m next := rfl

theorem into_complete (m : Move State) (rule : Rule) (next : State → Outcome) :
    into (m.complete rule) next = (into m next).map (rule :: ·) := by
  obtain ⟨notes, result⟩ := m
  cases result with
  | error e  => rfl
  | ok state =>
    show (next state).map _ = ((next state).map _).map _
    cases next state <;> rfl

/-! ## Through one line -/

/-- What the end of a line does.  The token that ends it is named only where it is not expected. -/
def endLine (stop : Token) : State → Move State
  | .statement        => goTo .statement
  | .reference _ seen => reject (.unexpectedToken stop.kind seen.expected) stop.position
  | .front _ _        => goTo .statement
  | .literal _        => goTo .statement
  | .skipping         => goTo .statement
  | .line l           => goTo (.rule l.close)
  | .rule r           => (goTo .statement).complete r

/-- The tokens of a line one after the other, then its end, and then what comes of the state after it. -/
def throughLine (settings : Settings) (stop : Token) (next : State → Outcome) : State → List Token → Outcome
  | state, []            => into (endLine stop state) next
  | state, token :: rest => into (state.advance settings token) fun s => throughLine settings stop next s rest

section OneLine

variable {settings : Settings} {stop : Token} {next : State → Outcome}

theorem into_advance_newline {state : State} {token : Token} (h : token.kind = .newline) :
    into (state.advance settings token) next = into (endLine token state) next := by
  cases state with
  | reference slot seen => cases seen <;> simp [State.advance, continueReference, endLine, h]
  | _ =>
    simp [State.advance, startStatement, continueFront, continueLiteral, continueLine, continueRule, endLine, h,
      into_report]

def afterReference (slot : Slot) : Reference → Token → State
  | .dollar,     token => if token.kind = .lessThan then slot.accept .allPrerequisites else .reference slot .opened
  | .opened,     token => .reference slot (.named token.text)
  | .named name, _     => slot.accept (.named name)

theorem continueReference_eq (slot : Slot) (seen : Reference) (token : Token) :
    continueReference slot seen token =
      if token.kind ∈ seen.expected then goTo (afterReference slot seen token)
      else reject (.unexpectedToken token.kind seen.expected) token.position := by
  cases seen <;> cases hk : token.kind <;> simp [continueReference, afterReference, Reference.expected, hk]

theorem throughLine_require (slot : Slot) (seen : Reference) (tokens : List Token) :
    throughLine settings stop next (.reference slot seen) tokens =
      require seen.expected stop tokens >>= fun p =>
        throughLine settings stop next (afterReference slot seen p.1) p.2 := by
  cases tokens with
  | nil           => rfl
  | cons token ts =>
    simp only [throughLine, State.advance, continueReference_eq, require]
    split
    · exact into_goTo _ _
    · rfl

theorem throughLine_reference (slot : Slot) (tokens : List Token) :
    throughLine settings stop next (.reference slot .dollar) tokens =
      readReference stop tokens >>= fun p => throughLine settings stop next (slot.accept p.1) p.2 := by
  rw [throughLine_require]
  simp only [readReference, Reference.expected, afterReference, bind, Except.bind, pure, Except.pure]
  cases require [.leftParen, .lessThan] stop tokens with
  | error e => rfl
  | ok opened =>
    by_cases hk : opened.1.kind = .lessThan
    · simp only [hk, if_true]
    simp only [hk, if_false]
    rw [throughLine_require]
    simp only [Reference.expected, afterReference, bind, Except.bind]
    cases require [.identifier] stop opened.2 with
    | error e => rfl
    | ok named =>
      show throughLine settings stop next (.reference slot (.named named.1.text)) named.2 = _
      rw [throughLine_require]
      simp only [Reference.expected, afterReference, bind, Except.bind]
      cases require [.rightParen] stop named.2 with
      | error e => rfl
      | ok closed => rfl

theorem readTerm_of_dollar {token : Token} (h : token.kind = .dollar) (rest : List Token) :
    readTerm stop token rest = readReference stop rest := if_pos h

theorem readTerm_of_identifier {token : Token} (h : token.kind = .identifier) (rest : List Token) :
    readTerm stop token rest = .ok (.identifier token.text, rest) := if_neg (by rw [h]; decide)

theorem beginsTerm_iff (token : Token) : beginsTerm token = true ↔ token.kind = .identifier ∨ token.kind = .dollar := by
  simp [beginsTerm]

theorem throughLine_goTo {state state' : State} {token : Token} {rest : List Token}
    (h : state.advance settings token = goTo state') :
    throughLine settings stop next state (token :: rest) = throughLine settings stop next state' rest := by
  rw [throughLine, h, into_goTo]

theorem throughLine_report {state state' : State} {token : Token} {rest : List Token} {event : Event}
    (h : state.advance settings token = (goTo state').report event) :
    throughLine settings stop next state (token :: rest) = throughLine settings stop next state' rest := by
  rw [throughLine, h, into_report, into_goTo]

theorem throughLine_reject {state : State} {token : Token} {rest : List Token} {cause : ParseError.Cause} {p : Position}
    (h : state.advance settings token = reject cause p) :
    throughLine settings stop next state (token :: rest) = .error ⟨cause, p⟩ := by
  rw [throughLine, h, into_reject]

theorem throughLine_term {state : State} {token : Token} (slot : Slot) (hterm : beginsTerm token = true)
    (hid : token.kind = .identifier → state.advance settings token = goTo (slot.accept (.identifier token.text)))
    (hdollar : token.kind = .dollar → state.advance settings token = goTo (.reference slot .dollar))
    (rest : List Token) :
    throughLine settings stop next state (token :: rest) =
      readTerm stop token rest >>= fun p => throughLine settings stop next (slot.accept p.1) p.2 := by
  rcases (beginsTerm_iff token).1 hterm with h | h
  · rw [throughLine_goTo (hid h), readTerm_of_identifier h]
    rfl
  · rw [throughLine_goTo (hdollar h), throughLine_reference, readTerm_of_dollar h]

theorem forall_mem_of_suffix {P : Token → Prop} {rest tokens : List Token} (h : rest <:+ tokens)
    (ht : ∀ t ∈ tokens, P t) : ∀ t ∈ rest, P t := fun t hr => ht t (h.subset hr)

theorem continueLine_of_unexpected {l : OpenLine} {token : Token} (hline : token.kind ≠ .newline)
    (hspace : token.kind ≠ .space) (hterm : ¬ beginsTerm token = true) :
    continueLine l token = reject (.unexpectedToken token.kind lineKinds) token.position := by
  rw [beginsTerm_iff, not_or] at hterm
  cases hk : token.kind <;> simp_all [continueLine]

theorem throughLine_line_term (l : OpenLine) {token : Token} (hterm : beginsTerm token = true) (rest : List Token) :
    throughLine settings stop next (.line l) (token :: rest) =
      readTerm stop token rest >>= fun p => throughLine settings stop next (.line (l.add p.1)) p.2 :=
  throughLine_term (.line l) hterm (fun h => by simp [State.advance, continueLine, h, Slot.accept])
    (fun h => by simp [State.advance, continueLine, h]) rest

/-- **The line of an open rule.**  Its terms are those read so far and those still to come. -/
theorem throughLine_line (tokens : List Token) (hline : ∀ t ∈ tokens, t.kind ≠ .newline) (l : OpenLine) :
    throughLine settings stop next (.line l) tokens =
      readTerms stop tokens >>= fun terms => next (.rule { l with terms := l.terms ++ terms }.close) := by
  fun_induction readTerms stop tokens generalizing l with
  | case1 =>
    rw [throughLine, endLine, into_goTo]
    simp only [bind, Except.bind, List.append_nil]
  | case2 token rest hspace ih =>
    have hstep : State.advance settings (.line l) token = goTo (.line l) := by
      simp [State.advance, continueLine, hspace]
    rw [throughLine_goTo hstep, ih (fun t ht => hline t (List.mem_cons_of_mem token ht))]
  | case3 token rest hspace hterm e hread =>
    rw [throughLine_line_term l hterm, hread]
    rfl
  | case4 token rest hspace hterm term rest' hread ih =>
    have hrest := forall_mem_of_suffix ((suffix_of_readTerm hread).trans (List.suffix_cons token rest)) hline
    rw [throughLine_line_term l hterm, hread]
    show throughLine settings stop next (.line (l.add term)) rest' = _
    rw [ih hrest]
    cases readTerms stop rest' with
    | error e     => rfl
    | ok terms =>
      show next (.rule { l with terms := l.terms ++ [term] ++ terms }.close) = _
      rw [List.append_assoc]
      rfl
  | case5 token rest hspace hterm =>
    exact throughLine_reject (continueLine_of_unexpected (hline token List.mem_cons_self) hspace hterm)

/-! A line of its own -/

theorem throughLine_skipping : ∀ tokens : List Token, (∀ t ∈ tokens, t.kind ≠ .newline) →
    throughLine settings stop next .skipping tokens = next .statement
  | [],            _     => into_goTo _ _
  | token :: rest, hline => by
    have hstep : State.advance settings .skipping token = goTo .skipping := if_neg (hline token List.mem_cons_self)
    rw [throughLine_goTo hstep, throughLine_skipping rest fun t ht => hline t (List.mem_cons_of_mem token ht)]

def resultOf (next : State → Outcome) : Content → Outcome
  | .nothing                     => next .statement
  | .header target prerequisites => next (.rule ⟨target, prerequisites, [], false⟩)

def resume (settings : Settings) (stop : Token) (next : State → Outcome) : Progress → Outcome
  | .known content => resultOf next content
  | .unread rest   => throughLine settings stop next .statement rest

theorem dropSpaces_cons_of_space {token : Token} (h : token.kind = .space) (rest : List Token) :
    dropSpaces (token :: rest) = dropSpaces rest := List.dropWhile_cons_of_pos (by simp [h])

theorem dropSpaces_cons_of_ne {token : Token} (h : token.kind ≠ .space) (rest : List Token) :
    dropSpaces (token :: rest) = token :: rest := List.dropWhile_cons_of_neg (by simp [h])

theorem throughLine_afterTerm (term : Term) (start : Position) {token : Token} (rest : List Token)
    (hline : ∀ t ∈ token :: rest, t.kind ≠ .newline) (hspace : token.kind ≠ .space) :
    throughLine settings stop next (.front term start) (token :: rest) =
      afterTerm settings stop term start (token :: rest) >>= resume settings stop next := by
  have hrest : ∀ t ∈ rest, t.kind ≠ .newline := fun t ht => hline t (List.mem_cons_of_mem token ht)
  cases hk : token.kind with
  | colon =>
    have hstep : State.advance settings (.front term start) token = goTo (.line ⟨.ofTarget term, false, []⟩) := by
      simp [State.advance, continueFront, hk]
    rw [throughLine_goTo hstep, throughLine_line rest hrest]
    simp only [afterTerm, hk]
    cases readTerms stop rest <;> rfl
  | equals =>
    by_cases hs : settings.strict = true
    · have hstep : State.advance settings (.front term start) token =
          reject (.unsupportedAssignment (term.name?.getD "")) start := by
        simp [State.advance, continueFront, hk, hs]
      rw [throughLine_reject hstep]
      simp only [afterTerm, hk, hs, if_true]
      rfl
    · have hstep : State.advance settings (.front term start) token =
          (goTo .skipping).report (.assignmentSkipped (term.name?.getD "") start.row) := by
        simp [State.advance, continueFront, hk, hs]
      rw [throughLine_report hstep, throughLine_skipping rest hrest]
      simp only [afterTerm, hk, hs]
      rfl
  | hash =>
    have hstep : State.advance settings (.front term start) token = goTo .skipping := by
      simp [State.advance, continueFront, hk]
    rw [throughLine_goTo hstep, throughLine_skipping rest hrest]
    simp only [afterTerm, hk]
    rfl
  | newline => exact absurd hk (hline token List.mem_cons_self)
  | space   => exact absurd hk hspace
  | _ =>
    have hstep : State.advance settings (.front term start) token =
        (goTo .statement).report (.termDropped token.kind token.position) := by
      simp [State.advance, continueFront, hk]
    rw [throughLine_report hstep]
    simp only [afterTerm, hk]
    rfl

theorem throughLine_front (term : Term) (start : Position) : ∀ tokens : List Token, (∀ t ∈ tokens, t.kind ≠ .newline) →
    throughLine settings stop next (.front term start) tokens =
      afterTerm settings stop term start (dropSpaces tokens) >>= resume settings stop next
  | [],            _     => into_goTo _ _
  | token :: rest, hline => by
    by_cases hk : token.kind = .space
    · have hstep : State.advance settings (.front term start) token = goTo (.front term start) := by
        simp [State.advance, continueFront, hk]
      have hrest : ∀ t ∈ rest, t.kind ≠ .newline := fun t ht => hline t (List.mem_cons_of_mem token ht)
      rw [throughLine_goTo hstep, dropSpaces_cons_of_space hk, throughLine_front term start rest hrest]
    · rw [dropSpaces_cons_of_ne hk, throughLine_afterTerm term start rest hline hk]

theorem throughLine_literal (literal : Token) : ∀ tokens : List Token,
    throughLine settings stop next (.literal literal) tokens =
      afterLiteral literal (dropSpaces tokens) >>= resume settings stop next
  | []            => into_goTo _ _
  | token :: rest => by
    by_cases hk : token.kind = .space
    · have hstep : State.advance settings (.literal literal) token = goTo (.literal literal) := by
        simp [State.advance, continueLiteral, hk]
      rw [throughLine_goTo hstep, dropSpaces_cons_of_space hk, throughLine_literal literal rest]
    rw [dropSpaces_cons_of_ne hk]
    by_cases hc : token.kind = .colon
    · have hstep : State.advance settings (.literal literal) token =
          reject (.invalidTarget literal.text) literal.position := by
        simp [State.advance, continueLiteral, hc]
      rw [throughLine_reject hstep]
      simp only [afterLiteral, hc, if_true]
      rfl
    · have hstep : State.advance settings (.literal literal) token =
          (startStatement token).report (.literalIgnored literal.kind literal.position.row) := by
        cases h : token.kind <;> simp_all [State.advance, continueLiteral]
      rw [throughLine, hstep, into_report]
      simp only [afterLiteral, hc, if_false]
      rfl

theorem throughLine_readStatement (token : Token) (rest : List Token) (hline : ∀ t ∈ token :: rest, t.kind ≠ .newline) :
    throughLine settings stop next .statement (token :: rest) =
      readStatement settings stop token rest >>= resume settings stop next := by
  have hrest : ∀ t ∈ rest, t.kind ≠ .newline := fun t ht => hline t (List.mem_cons_of_mem token ht)
  have hterm (h : beginsTerm token = true) : throughLine settings stop next .statement (token :: rest) =
      (readTerm stop token rest >>= fun p => afterTerm settings stop p.1 token.position (dropSpaces p.2)) >>=
        resume settings stop next := by
    rw [throughLine_term (.front token.position) h (fun h => by simp [State.advance, startStatement, h, Slot.accept])
      (fun h => by simp [State.advance, startStatement, h])]
    cases hread : readTerm stop token rest with
    | error e => rfl
    | ok p =>
      have hp : ∀ t ∈ p.2, t.kind ≠ .newline := forall_mem_of_suffix (suffix_of_readTerm hread) hrest
      exact throughLine_front p.1 token.position p.2 hp
  have hliteral (h : State.advance settings .statement token = goTo (.literal token)) :
      throughLine settings stop next .statement (token :: rest) =
        afterLiteral token (dropSpaces rest) >>= resume settings stop next := by
    rw [throughLine_goTo h, throughLine_literal]
  cases hk : token.kind with
  | identifier =>
    rw [hterm (by simp [beginsTerm, hk])]
    simp only [readStatement, hk]
  | dollar =>
    rw [hterm (by simp [beginsTerm, hk])]
    simp only [readStatement, hk]
  | number =>
    rw [hliteral (by simp [State.advance, startStatement, hk])]
    simp only [readStatement, hk]
  | singleQuoteLiteral =>
    rw [hliteral (by simp [State.advance, startStatement, hk])]
    simp only [readStatement, hk]
  | doubleQuoteLiteral =>
    rw [hliteral (by simp [State.advance, startStatement, hk])]
    simp only [readStatement, hk]
  | hash =>
    have hstep : State.advance settings .statement token =
        (goTo .skipping).report (.commentIgnored token.position.row) := by
      simp [State.advance, startStatement, hk]
    rw [throughLine_report hstep, throughLine_skipping rest hrest]
    simp only [readStatement, hk]
    rfl
  | newline => exact absurd hk (hline token List.mem_cons_self)
  | _ =>
    have hstep : State.advance settings .statement token =
        (goTo .statement).report (.tokenIgnored token.kind token.position) := by
      simp [State.advance, startStatement, hk]
    rw [throughLine_report hstep]
    simp only [readStatement, hk]
    rfl

/-- **A line where no rule is open.** -/
theorem throughLine_statement (tokens : List Token) (hline : ∀ t ∈ tokens, t.kind ≠ .newline) :
    throughLine settings stop next .statement tokens =
      readStatements settings stop tokens >>= resultOf next := by
  fun_induction readStatements settings stop tokens with
  | case1 => exact into_goTo _ _
  | case2 token rest e hread =>
    rw [throughLine_readStatement token rest hline, hread]
    rfl
  | case3 token rest content hread =>
    rw [throughLine_readStatement token rest hline, hread]
    rfl
  | case4 token rest rest' hread ih =>
    have hrest := forall_mem_of_suffix ((suffix_of_readStatement hread).trans (List.suffix_cons token rest)) hline
    rw [throughLine_readStatement token rest hline, hread, ← ih hrest]
    rfl

/-- **A line where a rule is open.**  A tab makes it a line of the recipe; else the rule is complete, and the line
stands on its own. -/
theorem throughLine_rule (rule : Rule) (line : Line) (hline : ∀ t ∈ line.tokens, t.kind ≠ .newline) :
    throughLine settings stop next (.rule rule) line.tokens =
      match line.recipe? with
      | some tokens =>
        readTerms stop tokens >>= fun terms => next (.rule { rule with recipe := rule.recipe ++ [terms] })
      | none => (throughLine settings stop next .statement line.tokens).map (rule :: ·) := by
  obtain ⟨tokens, stop'⟩ := line
  cases tokens with
  | nil => exact into_complete _ _ _
  | cons token rest =>
    have hrest : ∀ t ∈ rest, t.kind ≠ .newline := fun t ht => hline t (List.mem_cons_of_mem token ht)
    by_cases hk : token.kind = .tab
    · have hstep : State.advance settings (.rule rule) token = goTo (.line ⟨rule, true, []⟩) := if_pos hk
      rw [throughLine_goTo hstep, throughLine_line rest hrest]
      simp only [Line.recipe?, hk, if_true]
      rfl
    · have hstep : State.advance settings (.rule rule) token = (startStatement token).complete rule := if_neg hk
      simp only [Line.recipe?, hk, if_false]
      rw [throughLine, hstep, into_complete]
      rfl

end OneLine

/-! ## Through all lines -/

/-- The tokens one after the other, and then the end of input at `last`. -/
def outcome (settings : Settings) (last : Position) : State → List Token → Outcome
  | state, []            => (state.finish last).result.map fun _ => Note.rules (state.finish last).notes
  | state, token :: rest => into (state.advance settings token) fun s => outcome settings last s rest

section AllLines

variable {settings : Settings} {last : Position}

theorem outcome_nil (state : State) :
    outcome settings last state [] =
      into (endLine (.endOfInput last) state) fun s => outcome settings last s [] := by
  cases state <;> rfl

theorem outcome_last_line : ∀ (tokens : List Token) (state : State),
    outcome settings last state tokens =
      throughLine settings (.endOfInput last) (fun s => outcome settings last s []) state tokens
  | [],            state => outcome_nil state
  | token :: rest, state => by simp only [outcome, throughLine, outcome_last_line rest]

theorem outcome_line {stop : Token} (hstop : stop.kind = .newline) (later : List Token) :
    ∀ (tokens : List Token) (state : State),
      outcome settings last state (tokens ++ stop :: later) =
        throughLine settings stop (fun s => outcome settings last s later) state tokens
  | [],            _     => into_advance_newline hstop
  | token :: rest, state => by simp only [List.cons_append, outcome, throughLine, outcome_line hstop later rest]

/-- A rule with the recipe lines that are still to come, and the rules behind it. -/
def complete (rule : Rule) (later : List RecipeLine × List Rule) : List Rule :=
  { rule with recipe := rule.recipe ++ later.1 } :: later.2

theorem complete_cons (rule : Rule) (terms : RecipeLine) (later : List RecipeLine × List Rule) :
    complete { rule with recipe := rule.recipe ++ [terms] } later = complete rule (terms :: later.1, later.2) := by
  simp [complete]

theorem throughLine_readLines_false {next : State → Outcome} (line : Line) {later : List Line}
    (hline : ∀ t ∈ line.tokens, t.kind ≠ .newline)
    (hstatement : next .statement = (readLines settings false later).map Prod.snd)
    (hrule : ∀ rule, next (.rule rule) = (readLines settings true later).map (complete rule)) :
    throughLine settings line.stop next .statement line.tokens =
      (readLines settings false (line :: later)).map Prod.snd := by
  rw [throughLine_statement line.tokens hline]
  cases hread : readStatements settings line.stop line.tokens with
  | error e => simp only [readLines, hread, bind, Except.bind, Except.map]
  | ok content =>
    cases content with
    | nothing =>
      rw [readLines_false_of_nothing hread]
      show next .statement = _
      rw [hstatement]
      cases readLines settings false later <;> rfl
    | header target prerequisites =>
      rw [readLines_false_of_header hread]
      show next (.rule ⟨target, prerequisites, [], false⟩) = _
      rw [hrule]
      cases readLines settings true later <;> rfl

/-- Where no rule is open, no line in front of the first header is a line of a recipe. -/
theorem recipe_of_readLines_false : ∀ {ls : List Line} {p : List RecipeLine × List Rule},
    readLines settings false ls = .ok p → p.1 = []
  | [],            p, h => by cases h; rfl
  | line :: later, p, h => by
    simp only [readLines, bind, Except.bind, pure, Except.pure] at h
    split at h
    · cases h
    split at h
    · split at h <;> cases h
      rfl
    · split at h <;> cases h
      rfl

theorem map_complete_readLines_false (rule : Rule) (ls : List Line) :
    (readLines settings false ls).map (complete rule) =
      ((readLines settings false ls).map Prod.snd).map (rule :: ·) := by
  cases h : readLines settings false ls with
  | error e => rfl
  | ok p    => simp [Except.map, complete, recipe_of_readLines_false h]

theorem throughLine_readLines_true {next : State → Outcome} (line : Line) {later : List Line}
    (hline : ∀ t ∈ line.tokens, t.kind ≠ .newline)
    (hstatement : next .statement = (readLines settings false later).map Prod.snd)
    (hrule : ∀ rule, next (.rule rule) = (readLines settings true later).map (complete rule)) (rule : Rule) :
    throughLine settings line.stop next (.rule rule) line.tokens =
      (readLines settings true (line :: later)).map (complete rule) := by
  rw [throughLine_rule rule line hline]
  cases hr : line.recipe? with
  | some tokens =>
    rw [readLines_true_of_recipe hr]
    simp only [bind, Except.bind]
    cases readTerms line.stop tokens with
    | error e => rfl
    | ok terms =>
      simp only [hrule]
      cases readLines settings true later with
      | error e => rfl
      | ok p    => simp only [Except.map, complete_cons]
  | none =>
    rw [readLines_of_none hr, map_complete_readLines_false]
    simp only [throughLine_readLines_false line hline hstatement hrule]

theorem forall_mem_takeWhile_endsLine (tokens : List Token) :
    ∀ t ∈ tokens.takeWhile (fun t => !endsLine t), t.kind ≠ .newline := by
  intro t ht
  have := List.all_eq_true.1 List.all_takeWhile t ht
  simpa [endsLine] using this

/-- **The machine reads lines.**  From the state where no rule is open it gives the rules of the lines to come; where a
rule is open, the first of them is that rule with its recipe. -/
theorem outcome_eq_readLines (tokens : List Token) :
    outcome settings last .statement tokens = (readLines settings false (lines last tokens)).map Prod.snd ∧
      ∀ rule, outcome settings last (.rule rule) tokens =
        (readLines settings true (lines last tokens)).map (complete rule) := by
  -- both states at once, since a line can lead from either to the other
  fun_induction lines last tokens with
  | case1 tokens hdrop =>
    have htake : tokens.takeWhile (fun t => !endsLine t) = tokens := by
      conv => rhs; rw [← List.takeWhile_append_dropWhile (p := fun t => !endsLine t) (l := tokens), hdrop]
      rw [List.append_nil]
    have hline : ∀ t ∈ tokens, t.kind ≠ .newline := htake ▸ forall_mem_takeWhile_endsLine tokens
    have hstatement : outcome settings last .statement [] = (readLines settings false []).map Prod.snd := rfl
    have hrule : ∀ rule, outcome settings last (.rule rule) [] = (readLines settings true []).map (complete rule) := by
      intro rule
      simp [outcome, State.finish, Move.complete, done, Note.rules, Note.rule?, readLines_nil, Except.map, complete]
    refine ⟨?_, fun rule => ?_⟩
    · rw [outcome_last_line]
      exact throughLine_readLines_false ⟨tokens, .endOfInput last⟩ hline hstatement hrule
    · rw [outcome_last_line]
      exact throughLine_readLines_true ⟨tokens, .endOfInput last⟩ hline hstatement hrule rule
  | case2 tokens stop later hdrop ih =>
    have hline := forall_mem_takeWhile_endsLine tokens
    have htokens : tokens = tokens.takeWhile (fun t => !endsLine t) ++ stop :: later := by
      rw [← hdrop, List.takeWhile_append_dropWhile]
    have hstop : stop.kind = .newline := by
      have := List.head?_dropWhile_not (fun t => !endsLine t) tokens
      rw [hdrop] at this
      simpa [endsLine] using this
    have hthrough (state : State) : outcome settings last state tokens =
        throughLine settings stop (fun s => outcome settings last s later) state
          (tokens.takeWhile fun t => !endsLine t) := by
      conv => lhs; rw [htokens, outcome_line hstop]
    refine ⟨?_, fun rule => ?_⟩
    · rw [hthrough]
      exact throughLine_readLines_false ⟨_, stop⟩ hline ih.1 ih.2
    · rw [hthrough]
      exact throughLine_readLines_true ⟨_, stop⟩ hline ih.1 ih.2 rule

end AllLines

/-! ## Reading a stream -/

def readingOutcome {σ : Type} (r : Reading σ) : Except Error (List Rule) :=
  r.outcome.map fun _ => Note.rules r.notes

section Streams

variable {σ : Type} [TokenStream σ] {settings : Settings} {state : State} {source rest : σ}

theorem readingOutcome_of_end {token : Token} (h : TokenStream.next source = (.ok token, rest))
    (hk : token.kind = .endOfInput) :
    readingOutcome (read settings state source) = (outcome settings token.position state []).mapError .parse := by
  rw [read_of_end h hk]
  simp only [readingOutcome, outcome]
  cases (state.finish token.position).result <;> rfl

theorem readingOutcome_of_token {token : Token} {next : State → Outcome}
    (h : TokenStream.next source = (.ok token, rest)) (hk : token.kind ≠ .endOfInput)
    (hnext : ∀ s, readingOutcome (read settings s rest) = (next s).mapError .parse) :
    readingOutcome (read settings state source) = (into (state.advance settings token) next).mapError .parse := by
  rw [read_of_token h hk]
  simp only [into, bind, Except.bind]
  cases (state.advance settings token).result with
  | error e => rfl
  | ok state' =>
    have hstate := hnext state'
    simp only [readingOutcome] at hstate ⊢
    cases hread : (read settings state' rest).outcome with
    | error e =>
      rw [hread] at hstate
      cases ho : next state' <;> rw [ho] at hstate <;> cases hstate
      rfl
    | ok u =>
      rw [hread] at hstate
      cases ho : next state' <;> rw [ho] at hstate <;> cases hstate
      exact congrArg Except.ok List.filterMap_append

end Streams

theorem readingOutcome_tokens (settings : Settings) (last : Position) :
    ∀ (tokens : List Token), (∀ t ∈ tokens, t.kind ≠ .endOfInput) → ∀ state : State,
      readingOutcome (read settings state (⟨tokens, last⟩ : TokenList)) =
        (outcome settings last state tokens).mapError .parse
  | [],            _, state => by
    have hnext : TokenStream.next (⟨[], last⟩ : TokenList) = (.ok (.endOfInput last), ⟨[], last⟩) := rfl
    exact readingOutcome_of_end hnext rfl
  | token :: rest, h, state => by
    have hnext : TokenStream.next (⟨token :: rest, last⟩ : TokenList) = (.ok token, ⟨rest, last⟩) := rfl
    have hrest := readingOutcome_tokens settings last rest fun t ht => h t (List.mem_cons_of_mem token ht)
    exact readingOutcome_of_token hnext (h token List.mem_cons_self) hrest

theorem result_build {σ : Type} [TokenStream σ] (program : Program) (settings : Settings) (source : σ) :
    (program.build settings source).result =
      (readingOutcome (read settings .statement source)).map program.addRules := by
  simp only [Build.result, Program.build, readingOutcome]
  cases (read settings .statement source).outcome <;> rfl

/-- **A program is read line by line.**  Reading tokens into a program gives what the lines of these tokens give, one
after the other with the bit between them: the same rules behind those of the program, or the same error. -/
theorem result_build_eq_rulesOf (program : Program) (settings : Settings) (tokens : List Token)
    (h : ∀ t ∈ tokens, t.kind ≠ .endOfInput) :
    (program.build settings (TokenList.ofTokens tokens)).result =
      ((rulesOf settings (TokenList.ofTokens tokens)).mapError .parse).map program.addRules := by
  obtain ⟨last, hlist⟩ : ∃ last, TokenList.ofTokens tokens = ⟨tokens, last⟩ := by
    unfold TokenList.ofTokens
    split <;> exact ⟨_, rfl⟩
  rw [hlist, result_build, readingOutcome_tokens settings last tokens h, (outcome_eq_readLines tokens).1]
  rfl

/-- The tokens of a rule `a:` with the recipe line `$<`. -/
def shortRule : List Token :=
  [⟨.identifier, "a", 1, ⟨0, 0⟩⟩, ⟨.colon, ":", 1, ⟨0, 1⟩⟩] ++ ⟨.newline, "\n", 1, ⟨0, 2⟩⟩ ::
    [⟨.tab, "\t", 1, ⟨1, 0⟩⟩, ⟨.dollar, "$", 1, ⟨1, 1⟩⟩, ⟨.lessThan, "<", 1, ⟨1, 2⟩⟩]

theorem result_build_shortRule : (∀ t ∈ shortRule, t.kind ≠ .endOfInput) ∧
    (Program.empty.build {} (TokenList.ofTokens shortRule)).result =
      .ok ⟨[.rule ⟨.identifier "a", [], [[.allPrerequisites]], false⟩], .empty⟩ := by
  have h : ∀ t ∈ shortRule, t.kind ≠ .endOfInput := by decide
  have hheader (stop : Token) : readStatements {} stop [⟨.identifier, "a", 1, ⟨0, 0⟩⟩, ⟨.colon, ":", 1, ⟨0, 1⟩⟩] =
      .ok (.header (.identifier "a") []) := by
    rw [readStatements_cons]
    show ((readTerms stop []).map fun terms => Progress.known (.header (.identifier "a") terms)) >>= _ = _
    rw [readTerms_nil]
    rfl
  have hrecipe (stop : Token) : readTerms stop [⟨.dollar, "$", 1, ⟨1, 1⟩⟩, ⟨.lessThan, "<", 1, ⟨1, 2⟩⟩] =
      .ok [.allPrerequisites] := by
    rw [readTerms_term rfl rfl, readTerms_nil]
    rfl
  refine ⟨h, ?_⟩
  rw [result_build_eq_rulesOf Program.empty {} shortRule h]
  show (((readLines {} false (lines ⟨1, 3⟩ shortRule)).map Prod.snd).mapError Error.parse).map
    Program.empty.addRules = _
  rw [shortRule, lines_append (by decide) rfl, lines_of_forall (by decide), readLines_false_of_header (hheader _),
    readLines_true_of_recipe rfl, hrecipe]
  rfl

end RuleFile.Lines
