import Mathlib
import RuleFile.Proofs.TextReading
/-!
# Reading a text as it is cut

A text can be read while it is cut into tokens, or cut first and then read.  Both ways come to the same
(`result_parseText_eq_parseTokens`): `Account.ofLexemes` reads the pieces of a text one by one, and where all of them
are tokens, that is a run over their list and then the end of the input, at the same place.  Where one piece is no
token, what stands in front of it may still be wrong by the grammar, and then at a place in front of it.
-/
namespace RuleFile

open Grammar

/-! ## Accounts of lexemes -/

/-- What is told of lexemes, the first of them at `p`, from a state. -/
def Account.ofLexemes (settings : Settings) : Position → List Lexeme → State → Account
  | p, [],                            state => .ending p state
  | p, .failure cause :: _,           _     => .failure ⟨cause, p⟩
  | p, .token kind text n :: lexemes, state =>
    .behind (state.advance settings ⟨kind, String.ofList text, n, p⟩) (ofLexemes settings (p.after kind) lexemes)

/-- **What a reading tells of a text is what is told of its pieces.** -/
theorem account_of_split {settings : Settings} {cs : List Char} {pieces : List (List Char × Lexeme)}
    (h : Split cs pieces) (p : Position) (f : Bool) (state : State) :
    (read settings state (⟨cs, p, f⟩ : Scanner)).account =
      .ofLexemes settings p (pieces.map Prod.snd) state := by
  induction h generalizing p state with
  | nil =>
    have hnext : TokenStream.next (⟨[], p, f⟩ : Scanner) = (.ok (.endOfInput p), ⟨[], p, f⟩) := rfl
    exact account_of_end hnext rfl
  | @cons piece rest lexeme pieces hpiece hrest ih =>
    have hnext : TokenStream.next (⟨piece ++ rest, p, f⟩ : Scanner) = (lexeme.place p, ⟨rest, p.past lexeme, f⟩) :=
      next_of_piece hpiece p f
    cases lexeme with
    | failure cause     => exact account_of_failure hnext
    | token kind text n =>
      rw [account_of_token hnext hpiece.kind_ne_endOfInput, List.map_cons, Account.ofLexemes]
      exact congrArg _ (funext fun s => ih (p.after kind) s)

theorem account_parseText (settings : Settings) {text : String} {lexemes : List Lexeme}
    (h : Spells (withoutMark text.toList) lexemes) (state : State) :
    (read settings state (Scanner.ofText text)).account = .ofLexemes settings .start lexemes state := by
  obtain ⟨pieces, hsplit, rfl⟩ := h
  rw [ofText_eq]
  exact account_of_split hsplit .start false state

theorem result_parseText_of_lexemes (settings : Settings) {text : String} {lexemes : List Lexeme}
    (h : Spells (withoutMark text.toList) lexemes) :
    (parseText settings text).result = (Account.ofLexemes settings .start lexemes .statement).result .empty :=
  congrArg (Account.result .empty) (account_parseText settings h .statement)

/-- Tokens in front of other lexemes make a run. -/
theorem ofLexemes_append (settings : Settings) (later : List Lexeme) : ∀ {tokens : List Lexeme},
    (∀ l ∈ tokens, l.isToken = true) → ∀ (p : Position) (state : State),
      Account.ofLexemes settings p (tokens ++ later) state =
        .behind (state.run settings (tokensAt p tokens)) (.ofLexemes settings (placeBehind p tokens) later)
  | [],                           _, _, _     => rfl
  | .failure cause :: _,          h, _, _     => by cases h _ List.mem_cons_self
  | .token kind text n :: tokens, h, p, state => by
    have hrest : ∀ l ∈ tokens, l.isToken = true := fun l hl => h l (List.mem_cons_of_mem _ hl)
    rw [List.cons_append, Account.ofLexemes, tokensAt, State.run, Account.behind_andThen]
    exact congrArg _ (funext fun s => ofLexemes_append settings later hrest (p.after kind) s)

theorem ofLexemes_tokens {settings : Settings} {tokens : List Lexeme} (h : ∀ l ∈ tokens, l.isToken = true)
    (p : Position) (state : State) : Account.ofLexemes settings p tokens state =
      .behind (state.run settings (tokensAt p tokens)) (.ending (placeBehind p tokens)) := by
  have happend := ofLexemes_append settings [] h p state
  rwa [List.append_nil] at happend

/-! ## The tokens of a text -/

/-- The tokens among lexemes, each at its place, if there is nothing else among these. -/
def tokensOf : Position → List Lexeme → Except LexError (List Token)
  | _, []                            => .ok []
  | p, .failure cause :: _           => .error ⟨cause, p⟩
  | p, .token kind text n :: lexemes =>
    (tokensOf (p.after kind) lexemes).map (⟨kind, String.ofList text, n, p⟩ :: ·)

section

variable {s s' : Scanner}

theorem remaining_of_none (h : s.next? = (none, s')) : s.remaining = [] := by
  rw [Scanner.remaining]
  split <;> simp_all

theorem remaining_of_error {e : LexError} (h : s.next? = (some (.error e), s')) : s.remaining = [.error e] := by
  rw [Scanner.remaining]
  split <;> simp_all

theorem remaining_of_token {t : Token} (h : s.next? = (some (.ok t), s')) : s.remaining = .ok t :: s'.remaining := by
  rw [Scanner.remaining]
  split <;> simp_all

end

theorem mapM_ok_cons (t : Token) (items : List (Except LexError Token)) :
    (Except.ok t :: items).mapM id = (items.mapM id).map (t :: ·) := by
  rw [List.mapM_cons]
  show (items.mapM id >>= fun ts => pure (t :: ts)) = _
  cases items.mapM id <;> rfl

/-- An iteration hands out the next piece of its text, and stops if it is no token. -/
theorem next?_of_piece {piece rest : List Char} {lexeme : Lexeme} (h : Piece piece rest lexeme) (p : Position) :
    (⟨piece ++ rest, p, false⟩ : Scanner).next? =
      (some (lexeme.place p), ⟨rest, p.past lexeme, !lexeme.isToken⟩) := by
  rw [Scanner.next?, next_of_piece h p false]
  cases lexeme with
  | failure cause     => rfl
  | token kind text n => exact if_neg h.kind_ne_endOfInput

theorem mapM_remaining_of_split {cs : List Char} {pieces : List (List Char × Lexeme)} (h : Split cs pieces)
    (p : Position) :
    (⟨cs, p, false⟩ : Scanner).remaining.mapM id = tokensOf p (pieces.map Prod.snd) := by
  induction h generalizing p with
  | nil =>
    have hiter : (⟨[], p, false⟩ : Scanner).next? = (none, ⟨[], p, true⟩) := rfl
    rw [remaining_of_none hiter]
    rfl
  | @cons piece rest lexeme pieces hpiece hrest ih =>
    have hiter := next?_of_piece hpiece p
    cases lexeme with
    | failure cause =>
      rw [remaining_of_error hiter]
      rfl
    | token kind text n =>
      rw [remaining_of_token hiter, mapM_ok_cons]
      exact congrArg _ (ih (p.after kind))

theorem tokenize_eq_tokensOf {text : String} {lexemes : List Lexeme} (h : Spells (withoutMark text.toList) lexemes) :
    tokenize text = tokensOf .start lexemes := by
  obtain ⟨pieces, hsplit, rfl⟩ := h
  rw [tokenize, ofText_eq]
  exact mapM_remaining_of_split hsplit .start

theorem tokensOf_ok : ∀ {lexemes : List Lexeme} {p : Position} {tokens : List Token},
    tokensOf p lexemes = .ok tokens → (∀ l ∈ lexemes, l.isToken = true) ∧ tokens = tokensAt p lexemes
  | [],                            p, tokens, h => by
    cases h
    exact ⟨fun _ hl => (List.not_mem_nil hl).elim, rfl⟩
  | .failure cause :: _,           p, tokens, h => by cases h
  | .token kind text n :: lexemes, p, tokens, h => by
    rw [tokensOf] at h
    cases hlater : tokensOf (p.after kind) lexemes with
    | error e => rw [hlater] at h; cases h
    | ok later =>
      rw [hlater] at h
      cases h
      obtain ⟨htokens, rfl⟩ := tokensOf_ok hlater
      exact ⟨List.forall_mem_cons.2 ⟨rfl, htokens⟩, rfl⟩

theorem tokensOf_of_isToken : ∀ {lexemes : List Lexeme} {p : Position}, (∀ l ∈ lexemes, l.isToken = true) →
    tokensOf p lexemes = .ok (tokensAt p lexemes)
  | [],                            _, _ => rfl
  | .failure cause :: _,           _, h => by cases h _ List.mem_cons_self
  | .token kind text n :: lexemes, p, h => by
    have hrest : ∀ l ∈ lexemes, l.isToken = true := fun l hl => h l (List.mem_cons_of_mem _ hl)
    rw [tokensOf, tokensOf_of_isToken hrest]
    rfl

/-- The first error of a text stands behind the tokens in front of it. -/
theorem tokensOf_error : ∀ {lexemes : List Lexeme} {p : Position} {e : LexError}, tokensOf p lexemes = .error e →
    ∃ tokens later, lexemes = tokens ++ .failure e.cause :: later ∧ (∀ l ∈ tokens, l.isToken = true) ∧
      e.position = placeBehind p tokens
  | [],                            p, e, h => by cases h
  | .failure cause :: later,       p, e, h => by
    cases h
    exact ⟨[], later, rfl, fun _ hl => (List.not_mem_nil hl).elim, rfl⟩
  | .token kind text n :: lexemes, p, e, h => by
    rw [tokensOf] at h
    cases hlater : tokensOf (p.after kind) lexemes with
    | ok later => rw [hlater] at h; cases h
    | error e' =>
      rw [hlater] at h
      obtain rfl : e' = e := Except.error.inj h
      obtain ⟨tokens, later, rfl, htokens, hplace⟩ := tokensOf_error hlater
      exact ⟨.token kind text n :: tokens, later, rfl, List.forall_mem_cons.2 ⟨rfl, htokens⟩, hplace⟩

/-! ## Places of tokens -/

theorem lt_after (p : Position) (k : Token.Kind) : p < p.after k := by
  unfold Position.after
  split
  · exact p.lt_nextRow
  · exact p.lt_nextColumn

theorem placeBehind_append (p : Position) (lexemes later : List Lexeme) :
    placeBehind p (lexemes ++ later) = placeBehind (placeBehind p lexemes) later := List.foldl_append

theorem le_placeBehind : ∀ (lexemes : List Lexeme) (p : Position), p = placeBehind p lexemes ∨ p < placeBehind p lexemes
  | [],                         p => .inl rfl
  | .failure _ :: lexemes,      p => le_placeBehind lexemes p
  | .token kind _ _ :: lexemes, p => by
    right
    rcases le_placeBehind lexemes (p.after kind) with h | h
    · exact h ▸ lt_after p kind
    · exact Position.lt_trans (lt_after p kind) h

/-- Tokens stand in front of the place behind them. -/
theorem position_lt_of_mem_tokensAt : ∀ (lexemes : List Lexeme) (p : Position), ∀ t ∈ tokensAt p lexemes,
    t.position < placeBehind p lexemes
  | .failure _ :: lexemes,      p, t, ht => position_lt_of_mem_tokensAt lexemes p t ht
  | .token kind _ _ :: lexemes, p, t, ht => by
    rcases List.mem_cons.1 ht with rfl | ht
    · show p < placeBehind (p.after kind) lexemes
      rcases le_placeBehind lexemes (p.after kind) with h | h
      · exact h ▸ lt_after p kind
      · exact Position.lt_trans (lt_after p kind) h
    · exact position_lt_of_mem_tokensAt lexemes (p.after kind) t ht

/-- The end of the input is at one place, whether it is counted or read off the last token. -/
theorem ofTokens_tokensAt {lexemes : List Lexeme} (h : ∀ l ∈ lexemes, l.isToken = true) :
    TokenList.ofTokens (tokensAt .start lexemes) = ⟨tokensAt .start lexemes, placeBehind .start lexemes⟩ := by
  rcases List.eq_nil_or_concat lexemes with rfl | ⟨front, last, rfl⟩
  · rfl
  rw [List.concat_eq_append] at h ⊢
  cases last with
  | failure cause     => cases h _ (List.mem_append_right front List.mem_cons_self)
  | token kind text n =>
    rw [tokensAt_append, placeBehind_append]
    show TokenList.ofTokens (_ ++ [⟨kind, String.ofList text, n, placeBehind .start front⟩]) = _
    rw [TokenList.ofTokens, List.getLast?_concat]
    rfl

theorem ok_mem_placed {t : Token} : ∀ (lexemes : List Lexeme) (p : Position), t ∈ tokensAt p lexemes →
    .ok t ∈ placed p lexemes
  | .failure _ :: lexemes,      p, ht => List.mem_cons_of_mem _ (ok_mem_placed lexemes p ht)
  | .token kind _ _ :: lexemes, p, ht => by
    rcases List.mem_cons.1 ht with rfl | ht
    · exact List.mem_cons_self
    · exact List.mem_cons_of_mem _ (ok_mem_placed lexemes (p.after kind) ht)

theorem kind_ne_endOfInput_of_mem_tokensAt {cs : List Char} {lexemes : List Lexeme} (h : Spells cs lexemes)
    {p : Position} : ∀ t ∈ tokensAt p lexemes, t.kind ≠ .endOfInput := by
  intro t ht
  obtain ⟨pieces, hsplit, rfl⟩ := h
  exact kind_ne_endOfInput_of_mem_placed hsplit (ok_mem_placed _ p ht)

/-! ## Both ways -/

/-- Reading what is in front of the first error of a text goes wrong there, or at a place in front of it. -/
theorem outcome_of_failure (settings : Settings) {tokens : List Lexeme} (h : ∀ l ∈ tokens, l.isToken = true)
    (cause : LexError.Cause) (later : List Lexeme) :
    (Account.ofLexemes settings .start (tokens ++ .failure cause :: later) .statement).outcome =
        .error (.lex ⟨cause, placeBehind .start tokens⟩) ∨
      ∃ e, (Account.ofLexemes settings .start (tokens ++ .failure cause :: later) .statement).outcome =
        .error (.parse e) ∧ e.position < placeBehind .start tokens := by
  rw [ofLexemes_append settings _ h]
  cases hrun : (State.run settings .statement (tokensAt .start tokens)).result with
  | error e =>
    rw [Account.behind_of_error hrun]
    have hplace : ∀ t ∈ tokensAt .start tokens, t.position < placeBehind .start tokens :=
      position_lt_of_mem_tokensAt tokens .start
    exact .inr ⟨e, rfl, position_of_run_error (P := (· < placeBehind .start tokens)) hplace hrun⟩
  | ok s =>
    rw [Account.behind_of_ok hrun]
    exact .inl rfl

/-- **A text is read as the list of its tokens is.**  Where it has tokens only, the program, the error and what is
reported are the same.  Where a piece of it is no token, it is never read as a program: the first such piece is the
error, or what stands in front of it is wrong already. -/
theorem result_parseText_eq_parseTokens (settings : Settings) (text : String) :
    (∀ tokens, tokenize text = .ok tokens →
      (parseText settings text).result = (parseTokens settings tokens).result ∧
      (parseText settings text).program = (parseTokens settings tokens).program ∧
      (parseText settings text).notes = (parseTokens settings tokens).notes) ∧
    (∀ e, tokenize text = .error e →
      (parseText settings text).result = .error (.lex e) ∨
      ∃ e', (parseText settings text).result = .error (.parse e') ∧ e'.position < e.position) := by
  obtain ⟨pieces, hsplit⟩ := exists_split (withoutMark text.toList)
  have hspells : Spells (withoutMark text.toList) (pieces.map Prod.snd) := ⟨pieces, hsplit, rfl⟩
  have htext := account_parseText settings hspells .statement
  rw [tokenize_eq_tokensOf hspells]
  refine ⟨fun tokens h => ?_, fun e h => ?_⟩
  · obtain ⟨htokens, rfl⟩ := tokensOf_ok h
    have hlist := account_tokens settings (placeBehind .start (pieces.map Prod.snd))
      (kind_ne_endOfInput_of_mem_tokensAt (p := .start) hspells) .statement
    rw [ofLexemes_tokens htokens, ← hlist, ← ofTokens_tokensAt htokens] at htext
    refine ⟨?_, ?_, ?_⟩
    · exact congrArg (Account.result .empty) htext
    · exact congrArg (fun a => Program.empty.addRules (Note.rules a.notes)) htext
    · exact congrArg Account.notes htext
  · obtain ⟨front, later, hlexemes, htokens, hplace⟩ := tokensOf_error h
    rw [hlexemes] at htext
    have houtcome := outcome_of_failure settings htokens e.cause later
    rw [← htext, ← hplace] at houtcome
    rcases houtcome with h | ⟨e', h, hlt⟩
    · left
      rw [parseText, result_build_eq_result, Account.result, h]
    · right
      exact ⟨e', by rw [parseText, result_build_eq_result, Account.result, h], hlt⟩

/-- The tokens of `a:$`. -/
def dollarTokens : List Token :=
  [⟨.identifier, "a", 1, ⟨0, 0⟩⟩, ⟨.colon, ":", 1, ⟨0, 1⟩⟩, ⟨.dollar, "$", 1, ⟨0, 2⟩⟩]

/-- The end of the input as the token at fault, and an error of the grammar in front of one that is none of it. -/
theorem result_parseText_dollar : tokenize "a:$" = .ok dollarTokens ∧
    (parseText {} "a:$").result = (parseTokens {} dollarTokens).result ∧
    (parseTokens {} dollarTokens).result =
      .error (.parse ⟨.unexpectedToken .endOfInput [.leftParen, .lessThan], ⟨0, 3⟩⟩) ∧
    tokenize "x:1^" = .error ⟨.unexpectedCharacter '^', ⟨0, 3⟩⟩ ∧
    ∃ e, (parseText {} "x:1^").result = .error (.parse e) ∧ e.position < ⟨0, 3⟩ := by
  have hdollar : tokenize "a:$" = .ok dollarTokens := by cbv
  have hcaret : tokenize "x:1^" = .error ⟨.unexpectedCharacter '^', ⟨0, 3⟩⟩ := by cbv
  have hlex : (parseText {} "x:1^").result ≠ .error (.lex ⟨.unexpectedCharacter '^', ⟨0, 3⟩⟩) := by
    have hread : (parseText {} "x:1^").result =
        .error (.parse ⟨.unexpectedToken .number [.identifier, .dollar, .space, .newline], ⟨0, 2⟩⟩) := by cbv
    rw [hread]
    exact fun h => by cases h
  exact ⟨hdollar, ((result_parseText_eq_parseTokens {} "a:$").1 _ hdollar).1, by cbv, hcaret,
    ((result_parseText_eq_parseTokens {} "x:1^").2 _ hcaret).resolve_left hlex⟩

end RuleFile
