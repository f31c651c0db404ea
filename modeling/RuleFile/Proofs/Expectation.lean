import Mathlib
import RuleFile.Proofs.Runs
/-!
# What a state expects

In a line of a rule, and in a reference, only some kinds of token may come next.  A token of another kind is rejected
where it stands, with the list of these kinds, and a token of one of them never is (`advance_eq_unexpected_iff`).  The
list that an error names is thus that of the state behind the tokens read before, and all that is still open in a state
can be completed (`exists_run_completion`): no token is taken behind which nothing could follow (`build_unexpected`).
-/
namespace RuleFile

open Grammar

namespace Grammar

open Move

/-! ## One token -/

/-- The kinds that may come next, where not all may. -/
def State.expected? : State → Option (List Token.Kind)
  | reference _ seen => some seen.expected
  | line _           => some lineKinds
  | _                => none

section

variable {settings : Settings} {state : State} {token : Token} {expected : List Token.Kind}

theorem continueReference_of_not_mem (slot : Slot) {seen : Reference} (h : token.kind ∉ seen.expected) :
    continueReference slot seen token = reject (.unexpectedToken token.kind seen.expected) token.position := by
  unfold continueReference
  split <;> simp_all [Reference.expected]

theorem continueLine_of_not_mem (l : OpenLine) (h : token.kind ∉ lineKinds) :
    continueLine l token = reject (.unexpectedToken token.kind lineKinds) token.position := by
  unfold continueLine
  split <;> simp_all [lineKinds]

theorem advance_of_not_mem (hs : state.expected? = some expected) (hk : token.kind ∉ expected) :
    state.advance settings token = reject (.unexpectedToken token.kind expected) token.position := by
  cases state with
  | reference slot seen => cases hs; exact continueReference_of_not_mem slot hk
  | line l              => cases hs; exact continueLine_of_not_mem l hk
  | _                   => cases hs

theorem exists_continueReference_of_mem (slot : Slot) {seen : Reference} (h : token.kind ∈ seen.expected) :
    ∃ s, (continueReference slot seen token).result = .ok s := by
  cases seen with
  | dollar     => rcases List.mem_pair.1 h with h | h <;> exact ⟨_, by simp only [continueReference, h]; rfl⟩
  | opened     => exact ⟨_, by simp only [continueReference, List.mem_singleton.1 h]; rfl⟩
  | named name => exact ⟨_, by simp only [continueReference, List.mem_singleton.1 h]; rfl⟩

theorem exists_continueLine_of_mem (l : OpenLine) (h : token.kind ∈ lineKinds) :
    ∃ s, (continueLine l token).result = .ok s := by
  simp only [lineKinds, List.mem_cons, List.not_mem_nil, or_false] at h
  rcases h with h | h | h | h <;> exact ⟨_, by simp only [continueLine, h]; rfl⟩

theorem exists_advance_of_mem (hs : state.expected? = some expected) (hk : token.kind ∈ expected) :
    ∃ s, (state.advance settings token).result = .ok s := by
  cases state with
  | reference slot seen => cases hs; exact exists_continueReference_of_mem slot hk
  | line l              => cases hs; exact exists_continueLine_of_mem l hk
  | _                   => cases hs

/-- Nothing else is rejected for its kind. -/
theorem expected?_of_unexpected {found : Token.Kind} {p : Position}
    (h : (state.advance settings token).result = .error ⟨.unexpectedToken found expected, p⟩) :
    ∃ kinds, state.expected? = some kinds := by
  have hstart {e : ParseError} : (startStatement token).result ≠ .error e := by
    unfold startStatement
    split <;> nofun
  cases state with
  | reference slot seen => exact ⟨_, rfl⟩
  | line l              => exact ⟨_, rfl⟩
  | statement           => exact absurd h hstart
  | front term start =>
    simp only [State.advance, continueFront] at h
    split at h
    · cases h
    · cases h
    · cases h
    · split at h <;> cases h
    · cases h
  | literal t =>
    simp only [State.advance, continueLiteral] at h
    split at h
    · cases h
    · cases h
    · exact absurd h hstart
  | skipping =>
    simp only [State.advance] at h
    split at h <;> cases h
  | rule r =>
    simp only [State.advance, continueRule] at h
    split at h
    · cases h
    · exact absurd h hstart

/-- **A token is rejected for its kind exactly where that kind is not expected**, at its own place and with the kinds
that are. -/
theorem advance_eq_unexpected_iff {found : Token.Kind} {p : Position} :
    (state.advance settings token).result = .error ⟨.unexpectedToken found expected, p⟩ ↔
      state.expected? = some expected ∧ token.kind ∉ expected ∧ found = token.kind ∧ p = token.position := by
  constructor
  · intro h
    obtain ⟨kinds, hs⟩ := expected?_of_unexpected h
    by_cases hk : token.kind ∈ kinds
    · obtain ⟨s, hok⟩ : ∃ s, (state.advance settings token).result = .ok s := exists_advance_of_mem hs hk
      rw [hok] at h
      cases h
    · rw [advance_of_not_mem hs hk] at h
      cases h
      exact ⟨hs, hk, rfl, rfl⟩
  · rintro ⟨hs, hk, rfl, rfl⟩
    rw [advance_of_not_mem hs hk]
    rfl

end

/-! ## The end of input -/

/-- The end of input is rejected in references only. -/
theorem finish_eq_error_iff {state : State} {p : Position} {e : ParseError} :
    (state.finish p).result = .error e ↔
      ∃ slot seen, state = .reference slot seen ∧ e = ⟨.unexpectedToken .endOfInput seen.expected, p⟩ := by
  constructor
  · intro h
    cases state with
    | reference slot seen => cases h; exact ⟨slot, seen, rfl, rfl⟩
    | _                   => cases h
  · rintro ⟨slot, seen, rfl, rfl⟩
    rfl

/-! ## Completion -/

/-- Tokens that end a reference. -/
def Reference.completion : Reference → List Token
  | dollar  => [⟨.lessThan, "<", 1, .start⟩]
  | opened  => [⟨.identifier, "x", 1, .start⟩, ⟨.rightParen, ")", 1, .start⟩]
  | named _ => [⟨.rightParen, ")", 1, .start⟩]

/-- Tokens behind which the input may end. -/
def State.completion : State → List Token
  | reference _ seen => seen.completion
  | _                => []

theorem kind_ne_endOfInput_of_mem_completion (state : State) : ∀ t ∈ state.completion, t.kind ≠ .endOfInput := by
  cases state with
  | reference slot seen => cases seen <;> simp [State.completion, Reference.completion]
  | _                   => exact fun _ h => (List.not_mem_nil h).elim

theorem finish_accept (slot : Slot) (term : Term) (p : Position) : ((slot.accept term).finish p).result = .ok () := by
  cases slot <;> rfl

/-- **Whatever is open can be completed.** -/
theorem exists_run_completion (settings : Settings) (state : State) (p : Position) :
    ∃ s, (state.run settings state.completion).result = .ok s ∧ (s.finish p).result = .ok () := by
  cases state with
  | reference slot seen =>
    cases seen with
    | dollar     => exact ⟨_, rfl, finish_accept slot _ p⟩
    | opened     => exact ⟨_, rfl, finish_accept slot _ p⟩
    | named name => exact ⟨_, rfl, finish_accept slot _ p⟩
  | _ => exact ⟨_, rfl, rfl⟩

end Grammar

/-! ## Readings of tokens -/

theorem parseOutcome_eq_error {e : ParseError} : ∀ {result : Except ParseError Unit},
    parseOutcome result = .error (.parse e) ↔ result = .error e
  | .ok ()   => ⟨nofun, nofun⟩
  | .error _ => ⟨fun h => by cases h; rfl, fun h => by cases h; rfl⟩

section

variable {settings : Settings} {last : Position}

/-- **A reading of tokens that goes wrong stops at one of them**, or at the end of input, with a state behind those in
front of it; the rest is what follows that token. -/
theorem exists_stop : ∀ {tokens : List Token}, (∀ t ∈ tokens, t.kind ≠ .endOfInput) → ∀ {state : State}
    {e : ParseError}, (read settings state (⟨tokens, last⟩ : TokenList)).outcome = .error (.parse e) →
      ∃ front s, (state.run settings front).result = .ok s ∧
        (front = tokens ∧ (s.finish last).result = .error e ∨
          ∃ token, tokens = front ++ token :: (read settings state (⟨tokens, last⟩ : TokenList)).rest.rest ∧
            (s.advance settings token).result = .error e)
  | [],            _,  state, e, h => by
    have hnext : TokenStream.next (⟨[], last⟩ : TokenList) = (.ok (.endOfInput last), ⟨[], last⟩) := rfl
    rw [read_of_end hnext rfl] at h
    exact ⟨[], state, rfl, .inl ⟨rfl, parseOutcome_eq_error.1 h⟩⟩
  | token :: later, hk, state, e, h => by
    have hnext : TokenStream.next (⟨token :: later, last⟩ : TokenList) = (.ok token, ⟨later, last⟩) := rfl
    have hlater : ∀ t ∈ later, t.kind ≠ .endOfInput := fun t ht => hk t (List.mem_cons_of_mem token ht)
    cases hmove : (state.advance settings token).result with
    | error e' =>
      rw [read_of_reject hnext (hk token List.mem_cons_self) hmove] at h ⊢
      cases h
      exact ⟨[], state, rfl, .inr ⟨token, rfl, hmove⟩⟩
    | ok s =>
      rw [read_of_advance hnext (hk token List.mem_cons_self) hmove] at h ⊢
      obtain ⟨front, s', hrun, hstop⟩ := exists_stop hlater h
      refine ⟨token :: front, s', ?_, ?_⟩
      · rw [State.run, Move.andThen_of_ok hmove]
        exact hrun
      · rcases hstop with ⟨hfront, hfinish⟩ | ⟨t, htokens, hreject⟩
        · exact .inl ⟨congrArg (token :: ·) hfront, hfinish⟩
        · exact .inr ⟨t, congrArg (token :: ·) htokens, hreject⟩

end

/-! ## Builds from tokens -/

theorem ofTokens_eq (tokens : List Token) :
    TokenList.ofTokens tokens = ⟨tokens, (TokenList.ofTokens tokens).last⟩ := by
  unfold TokenList.ofTokens
  split <;> rfl

section

variable {settings : Settings} {tokens : List Token}

/-- Behind tokens that are taken, only what they leave open counts. -/
theorem outcome_build_append (program : Program) {later : List Token}
    (htokens : ∀ t ∈ tokens ++ later, t.kind ≠ .endOfInput) {state : State}
    (hrun : (State.run settings .statement tokens).result = .ok state) :
    (program.build settings (TokenList.ofTokens (tokens ++ later))).outcome = (Account.behind
      (state.run settings later) (.ending (TokenList.ofTokens (tokens ++ later)).last)).outcome := by
  have haccount := account_tokens settings (TokenList.ofTokens (tokens ++ later)).last htokens .statement
  rw [← ofTokens_eq, run_append, Account.behind_andThen, Account.behind_of_ok hrun] at haccount
  exact congrArg Account.outcome haccount

/-- One more token is rejected for its kind exactly if the tokens in front of it leave others to be expected. -/
theorem outcome_build_next_iff (program : Program) {token : Token}
    (htokens : ∀ t ∈ tokens ++ [token], t.kind ≠ .endOfInput) {state : State}
    (hrun : (State.run settings .statement tokens).result = .ok state) (expected : List Token.Kind) :
    (program.build settings (TokenList.ofTokens (tokens ++ [token]))).outcome =
        .error (.parse ⟨.unexpectedToken token.kind expected, token.position⟩) ↔
      state.expected? = some expected ∧ token.kind ∉ expected := by
  have hmove : (state.advance settings token).result =
        .error ⟨.unexpectedToken token.kind expected, token.position⟩ ↔
      state.expected? = some expected ∧ token.kind ∉ expected :=
    advance_eq_unexpected_iff.trans (by simp)
  rw [outcome_build_append program htokens hrun, State.run, Account.behind_andThen, ← hmove]
  cases hnext : (state.advance settings token).result with
  | error e =>
    rw [Account.behind_of_error hnext]
    exact ⟨fun h => by cases h; rfl, fun h => by cases h; rfl⟩
  | ok s =>
    rw [Account.behind_of_ok hnext]
    refine ⟨fun h => ?_, fun h => by cases h⟩
    -- what is rejected behind the token is the end of input
    obtain ⟨slot, seen, -, heq⟩ := finish_eq_error_iff.1 (parseOutcome_eq_error.1 h)
    have hk : token.kind = .endOfInput := (ParseError.Cause.unexpectedToken.inj (congrArg ParseError.cause heq)).1
    exact absurd hk (htokens token (List.mem_append_right tokens List.mem_cons_self))

/-- Where a build stops at a kind that is not expected: in front of it are tokens that were taken, and what they leave
open expects the kinds that the error names. -/
theorem exists_front (program : Program) (htokens : ∀ t ∈ tokens, t.kind ≠ .endOfInput) {found : Token.Kind}
    {expected : List Token.Kind} {p : Position}
    (h : (program.build settings (TokenList.ofTokens tokens)).outcome =
      .error (.parse ⟨.unexpectedToken found expected, p⟩)) :
    ∃ front s, (State.run settings .statement front).result = .ok s ∧ s.expected? = some expected ∧
      (front = tokens ∧ found = .endOfInput ∧ p = (TokenList.ofTokens tokens).last ∨
        ∃ token, tokens = front ++ token :: (program.build settings (TokenList.ofTokens tokens)).rest.rest ∧
          found = token.kind ∧ p = token.position) := by
  have hread : (read settings .statement (TokenList.ofTokens tokens)).outcome =
      .error (.parse ⟨.unexpectedToken found expected, p⟩) := h
  rw [ofTokens_eq] at hread
  obtain ⟨front, s, hrun, ⟨hfront, hfinish⟩ | ⟨token, hsplit, hreject⟩⟩ := exists_stop htokens hread
  · obtain ⟨slot, seen, rfl, heq⟩ := finish_eq_error_iff.1 hfinish
    cases heq
    exact ⟨front, _, hrun, rfl, .inl ⟨hfront, rfl, rfl⟩⟩
  · obtain ⟨hs, -, hfound, hplace⟩ := advance_eq_unexpected_iff.1 hreject
    rw [← ofTokens_eq] at hsplit
    exact ⟨front, s, hrun, hs, .inr ⟨token, hsplit, hfound, hplace⟩⟩

/-- **What an error of the grammar expects is exact, and it comes at the first token that is wrong.**  The tokens in
front of the one at fault are those that were taken.  Behind them another token is rejected exactly if its kind is not
among those expected, and for the same reason; and they can be completed. -/
theorem build_unexpected (program : Program) (settings : Settings) {tokens : List Token}
    (htokens : ∀ t ∈ tokens, t.kind ≠ .endOfInput) {found : Token.Kind} {expected : List Token.Kind} {p : Position}
    (h : (program.build settings (TokenList.ofTokens tokens)).outcome =
      .error (.parse ⟨.unexpectedToken found expected, p⟩)) :
    ∃ front,
      (front = tokens ∧ found = .endOfInput ∧ p = (TokenList.ofTokens tokens).last ∨
        ∃ token, tokens = front ++ token :: (program.build settings (TokenList.ofTokens tokens)).rest.rest ∧
          found = token.kind ∧ p = token.position) ∧
      (∀ token : Token, token.kind ≠ .endOfInput → ∀ others,
        (program.build settings (TokenList.ofTokens (front ++ [token]))).outcome =
            .error (.parse ⟨.unexpectedToken token.kind others, token.position⟩) ↔
          token.kind ∉ expected ∧ others = expected) ∧
      ∃ completion : List Token, (∀ t ∈ completion, t.kind ≠ .endOfInput) ∧
        (program.build settings (TokenList.ofTokens (front ++ completion))).outcome = .ok () := by
  obtain ⟨front, s, hrun, hs, hstop⟩ := exists_front program htokens h
  have hfront : ∀ t ∈ front, t.kind ≠ .endOfInput := by
    rcases hstop with ⟨rfl, -⟩ | ⟨token, hsplit, -⟩
    · exact htokens
    · exact fun t ht => htokens t (hsplit ▸ List.mem_append_left _ ht)
  refine ⟨front, hstop, fun token hk others => ?_, s.completion, kind_ne_endOfInput_of_mem_completion s, ?_⟩
  · have hnext : ∀ t ∈ front ++ [token], t.kind ≠ .endOfInput :=
      List.forall_mem_append.2 ⟨hfront, List.forall_mem_singleton.2 hk⟩
    rw [outcome_build_next_iff program hnext hrun, hs, Option.some.injEq]
    exact ⟨fun ⟨heq, hnot⟩ => ⟨heq ▸ hnot, heq.symm⟩, fun ⟨hnot, heq⟩ => ⟨heq.symm, heq ▸ hnot⟩⟩
  · have hwhole : ∀ t ∈ front ++ s.completion, t.kind ≠ .endOfInput :=
      List.forall_mem_append.2 ⟨hfront, kind_ne_endOfInput_of_mem_completion s⟩
    obtain ⟨s', hcomplete, hfinish⟩ :=
      exists_run_completion settings s (TokenList.ofTokens (front ++ s.completion)).last
    rw [outcome_build_append program hwhole hrun, Account.behind_of_ok hcomplete]
    exact congrArg parseOutcome hfinish

end

/-- The tokens of `a:$(1`, all in one place. -/
def unnamedTokens : List Token :=
  [⟨.identifier, "a", 1, .start⟩, ⟨.colon, ":", 1, .start⟩, ⟨.dollar, "$", 1, .start⟩, ⟨.leftParen, "(", 1, .start⟩,
    ⟨.number, "1", 1, .start⟩]

/-- A number where a name is expected: of all tokens behind the parenthesis, identifiers alone are not rejected. -/
theorem build_unexpected_unnamed :
    (∀ t ∈ unnamedTokens, t.kind ≠ .endOfInput) ∧
    (Program.empty.build {} (TokenList.ofTokens unnamedTokens)).outcome =
      .error (.parse ⟨.unexpectedToken .number [.identifier], .start⟩) ∧
    ∃ front, front ++ [⟨.number, "1", 1, .start⟩] = unnamedTokens ∧
      (∀ token : Token, token.kind ≠ .endOfInput → ∀ others,
        (Program.empty.build {} (TokenList.ofTokens (front ++ [token]))).outcome =
            .error (.parse ⟨.unexpectedToken token.kind others, token.position⟩) ↔
          token.kind ∉ [Token.Kind.identifier] ∧ others = [.identifier]) ∧
      ∃ completion : List Token, (∀ t ∈ completion, t.kind ≠ .endOfInput) ∧
        (Program.empty.build {} (TokenList.ofTokens (front ++ completion))).outcome = .ok () := by
  have htokens : ∀ t ∈ unnamedTokens, t.kind ≠ .endOfInput := by decide
  have houtcome : (Program.empty.build {} (TokenList.ofTokens unnamedTokens)).outcome =
      .error (.parse ⟨.unexpectedToken .number [.identifier], .start⟩) := by cbv
  have hrest : (Program.empty.build {} (TokenList.ofTokens unnamedTokens)).rest.rest = [] := by cbv
  obtain ⟨front, hstop, hnext, hcomplete⟩ := build_unexpected .empty {} htokens houtcome
  refine ⟨htokens, houtcome, front, ?_, hnext, hcomplete⟩
  rcases hstop with ⟨-, hfound, -⟩ | ⟨token, hsplit, -⟩
  · cases hfound
  · rw [hrest] at hsplit
    have hlast := congrArg List.getLast? hsplit
    rw [List.getLast?_concat] at hlast
    obtain rfl : token = ⟨.number, "1", 1, .start⟩ := (Option.some.inj hlast).symm
    exact hsplit.symm

end RuleFile
