import RuleFile.Reading
/-!
# Runs

What the grammar does with tokens is what it does with one after the other: `State.run` is a run over a list of them,
and a run over two lists is one over the first and then one over the second (`run_append`).

Reading a stream is such a run, up to the end of the input or to what is no token.  An `Account` is what is left of a
reading once it does not matter where in the stream it stopped: of two streams that hand out the same it is the same.
-/
namespace RuleFile

namespace Grammar

open Move

/-! ## Notes -/

theorem Note.rules_append (notes later : List Note) : rules (notes ++ later) = rules notes ++ rules later :=
  List.filterMap_append

theorem Note.rules_map_rule (completed : List Rule) : rules (completed.map rule) = completed := by
  rw [rules, List.filterMap_map]
  exact List.filterMap_some

/-! ## Moves one after the other -/

/-- A move, and then that of the state it leads to. -/
def Move.andThen {α : Type} (m : Move State) (next : State → Move α) : Move α :=
  match m.result with
  | .error e  => ⟨m.notes, .error e⟩
  | .ok state => ⟨m.notes ++ (next state).notes, (next state).result⟩

theorem Move.andThen_of_error {α : Type} {m : Move State} {e : ParseError} (h : m.result = .error e)
    (next : State → Move α) : m.andThen next = ⟨m.notes, .error e⟩ := by
  rw [andThen, h]

theorem Move.andThen_of_ok {α : Type} {m : Move State} {state : State} (h : m.result = .ok state)
    (next : State → Move α) : m.andThen next = ⟨m.notes ++ (next state).notes, (next state).result⟩ := by
  rw [andThen, h]

theorem Move.andThen_assoc {α : Type} (m : Move State) (next : State → Move State) (later : State → Move α) :
    (m.andThen next).andThen later = m.andThen fun state => (next state).andThen later := by
  cases h : m.result with
  | error e  => rw [andThen_of_error h, andThen_of_error h, andThen_of_error rfl]
  | ok state =>
    rw [andThen_of_ok h, andThen_of_ok h]
    cases h' : (next state).result with
    | error e   => rw [andThen_of_error h', andThen_of_error rfl]
    | ok state' => rw [andThen_of_ok h', andThen_of_ok rfl, List.append_assoc]

/-! ## Runs -/

/-- What tokens do one after the other. -/
def State.run (settings : Settings) : State → List Token → Move State
  | state, []            => goTo state
  | state, token :: rest => (state.advance settings token).andThen fun s => s.run settings rest

theorem run_append (settings : Settings) (later : List Token) : ∀ (state : State) (tokens : List Token),
    state.run settings (tokens ++ later) = (state.run settings tokens).andThen fun s => s.run settings later
  | _,     []            => rfl
  | state, token :: rest => by
    rw [List.cons_append, State.run, State.run, Move.andThen_assoc]
    exact congrArg _ (funext fun s => run_append settings later s rest)

/-- A run that comes to its end also did so over the first of its tokens. -/
theorem run_of_append {settings : Settings} {state state' : State} {tokens later : List Token}
    (h : (state.run settings (tokens ++ later)).result = .ok state') :
    ∃ s, (state.run settings tokens).result = .ok s ∧ (s.run settings later).result = .ok state' := by
  rw [run_append] at h
  cases hrun : (state.run settings tokens).result with
  | error e => rw [Move.andThen_of_error hrun] at h; cases h
  | ok s    => rw [Move.andThen_of_ok hrun] at h; exact ⟨s, rfl, h⟩

/-! ## Places

The places that a state remembers, and those that errors name, are places of tokens: what holds of these holds of
them. -/

def Slot.Within (P : Position → Prop) : Slot → Prop
  | front start => P start
  | line _      => True

/-- The places that a state remembers are all such that `P`. -/
def State.Within (P : Position → Prop) : State → Prop
  | reference slot _ => slot.Within P
  | front _ start    => P start
  | literal token    => P token.position
  | _                => True

/-- The place that a move's error names, or those that its state remembers, are such that `P`. -/
def Move.Within (P : Position → Prop) (m : Move State) : Prop :=
  match m.result with
  | .error e  => P e.position
  | .ok state => state.Within P

section

variable {P : Position → Prop} {settings : Settings} {token : Token}

theorem within_accept {slot : Slot} (h : slot.Within P) (term : Term) : (slot.accept term).Within P := by
  cases slot with
  | front start => exact h
  | line l      => trivial

theorem within_startStatement (ht : P token.position) : (startStatement token).Within P := by
  unfold startStatement
  split <;> first | exact ht | trivial

theorem within_continueReference {slot : Slot} (hslot : slot.Within P) (seen : Reference) (ht : P token.position) :
    (continueReference slot seen token).Within P := by
  unfold continueReference
  split
  · exact within_accept hslot _
  · exact hslot
  · exact hslot
  · exact within_accept hslot _
  · exact ht

theorem within_continueFront (term : Term) {start : Position} (hstart : P start) :
    (continueFront settings term start token).Within P := by
  unfold continueFront
  split
  · exact hstart
  · trivial
  · trivial
  · split
    · exact hstart
    · trivial
  · trivial

theorem within_continueLiteral {literal : Token} (hliteral : P literal.position) (ht : P token.position) :
    (continueLiteral literal token).Within P := by
  unfold continueLiteral
  split
  · exact hliteral
  · exact hliteral
  · exact within_startStatement ht

theorem within_continueLine (l : OpenLine) (ht : P token.position) : (continueLine l token).Within P := by
  unfold continueLine
  split <;> first | exact ht | trivial

theorem within_continueRule (rule : Rule) (ht : P token.position) : (continueRule rule token).Within P := by
  unfold continueRule
  split
  · trivial
  · exact within_startStatement ht

theorem within_advance {state : State} (hstate : state.Within P) (ht : P token.position) :
    (state.advance settings token).Within P := by
  cases state with
  | statement           => exact within_startStatement ht
  | reference slot seen => exact within_continueReference hstate seen ht
  | front term start    => exact within_continueFront term hstate
  | literal t           => exact within_continueLiteral hstate ht
  | line l              => exact within_continueLine l ht
  | rule r              => exact within_continueRule r ht
  | skipping            =>
    show Move.Within P (if token.kind = .newline then goTo .statement else goTo .skipping)
    split <;> trivial

/-- **The places of a run are places of its tokens**, or remembered from before. -/
theorem within_run : ∀ {tokens : List Token} {state : State}, state.Within P → (∀ t ∈ tokens, P t.position) →
    (state.run settings tokens).Within P
  | [],            _,     hstate, _  => hstate
  | token :: rest, state, hstate, ht => by
    have hmove : (state.advance settings token).Within P := within_advance hstate (ht token List.mem_cons_self)
    rw [State.run]
    cases h : (state.advance settings token).result with
    | error e =>
      rw [Move.Within, h] at hmove
      rwa [Move.andThen_of_error h]
    | ok s =>
      rw [Move.Within, h] at hmove
      rw [Move.andThen_of_ok h]
      exact within_run hmove fun t hmem => ht t (List.mem_cons_of_mem token hmem)

theorem position_of_run_error {tokens : List Token} {e : ParseError} (ht : ∀ t ∈ tokens, P t.position)
    (h : (State.run settings .statement tokens).result = .error e) : P e.position := by
  have hrun : (State.run settings .statement tokens).Within P := within_run trivial ht
  rwa [Move.Within, h] at hrun

end

/-! ## Starts of lines

Behind a line break, the state is one of two: no rule is open, or one is. -/

def State.StartsLine : State → Prop
  | statement => True
  | rule _    => True
  | _         => False

theorem startsLine_of_advance {settings : Settings} {state s : State} {token : Token} (hk : token.kind = .newline)
    (h : (state.advance settings token).result = .ok s) : s.StartsLine := by
  cases state with
  | reference slot seen => cases seen <;> simp [State.advance, continueReference, hk, reject] at h
  | _ =>
    simp only [State.advance, startStatement, continueFront, continueLiteral, continueLine, continueRule, hk] at h
    cases h
    trivial

theorem startsLine_of_run {settings : Settings} {state s : State} {tokens : List Token} {token : Token}
    (hk : token.kind = .newline) (h : (state.run settings (tokens ++ [token])).result = .ok s) : s.StartsLine := by
  obtain ⟨s', -, hlast⟩ := run_of_append h
  rw [State.run] at hlast
  cases hmove : (s'.advance settings token).result with
  | error e   => rw [Move.andThen_of_error hmove] at hlast; cases hlast
  | ok s'' =>
    rw [Move.andThen_of_ok hmove] at hlast
    obtain rfl : s'' = s := Except.ok.inj hlast
    exact startsLine_of_advance hk hmove

end Grammar

open Grammar

/-! ## Reading a stream -/

section Streams

variable {σ : Type} [TokenStream σ] {settings : Settings} {state : State} {source rest : σ} {token : Token}

theorem read_of_end (h : TokenStream.next source = (.ok token, rest)) (hk : token.kind = .endOfInput) :
    read settings state source =
      ⟨(state.finish token.position).notes, parseOutcome (state.finish token.position).result, rest⟩ := by
  rw [read]
  split <;> simp_all

theorem read_of_token (h : TokenStream.next source = (.ok token, rest)) (hk : token.kind ≠ .endOfInput) :
    read settings state source =
      match (state.advance settings token).result with
      | .error e   => ⟨(state.advance settings token).notes, .error (.parse e), rest⟩
      | .ok state' =>
        ⟨(state.advance settings token).notes ++ (read settings state' rest).notes,
          (read settings state' rest).outcome, (read settings state' rest).rest⟩ := by
  rw [read]
  split
  · simp_all
  · rename_i heq
    obtain ⟨h1, rfl⟩ := Prod.mk.inj (h.symm.trans heq)
    obtain rfl := Except.ok.inj h1
    exact dif_neg hk

theorem read_of_reject {e : ParseError} (h : TokenStream.next source = (.ok token, rest))
    (hk : token.kind ≠ .endOfInput) (hmove : (state.advance settings token).result = .error e) :
    read settings state source = ⟨(state.advance settings token).notes, .error (.parse e), rest⟩ := by
  rw [read_of_token h hk, hmove]

theorem read_of_advance {state' : State} (h : TokenStream.next source = (.ok token, rest))
    (hk : token.kind ≠ .endOfInput) (hmove : (state.advance settings token).result = .ok state') :
    read settings state source =
      ⟨(state.advance settings token).notes ++ (read settings state' rest).notes,
        (read settings state' rest).outcome, (read settings state' rest).rest⟩ := by
  rw [read_of_token h hk, hmove]

theorem read_of_failure {e : LexError} (h : TokenStream.next source = (.error e, rest)) :
    read settings state source = ⟨[], .error (.lex e), rest⟩ := by
  rw [read]
  split <;> simp_all

/-- Of a stream, a reading sees only what it hands out next. -/
theorem read_congr {other : σ} (h : TokenStream.next source = TokenStream.next other) :
    read settings state source = read settings state other := by
  cases hnext : TokenStream.next other with
  | mk item rest =>
  cases item with
  | error e  => rw [read_of_failure (h.trans hnext), read_of_failure hnext]
  | ok token =>
    by_cases hk : token.kind = .endOfInput
    · rw [read_of_end (h.trans hnext) hk, read_of_end hnext hk]
    · rw [read_of_token (h.trans hnext) hk, read_of_token hnext hk]

end Streams

/-! ## Accounts

What is left of a reading, once it does not matter where in the stream it stopped. -/

structure Account where
  notes   : List Note
  outcome : Except Error Unit

namespace Account

/-- The account of a stream whose next piece is no token. -/
def failure (e : LexError) : Account := ⟨[], .error (.lex e)⟩

/-- The account of a stream that has come to its end at `p`. -/
def ending (p : Position) (state : State) : Account :=
  ⟨(state.finish p).notes, parseOutcome (state.finish p).result⟩

/-- A move, and then the account of what is read from its state. -/
def behind (m : Move State) (next : State → Account) : Account :=
  match m.result with
  | .error e  => ⟨m.notes, .error (.parse e)⟩
  | .ok state => ⟨m.notes ++ (next state).notes, (next state).outcome⟩

theorem behind_of_error {m : Move State} {e : ParseError} (h : m.result = .error e) (next : State → Account) :
    behind m next = ⟨m.notes, .error (.parse e)⟩ := by
  rw [behind, h]

theorem behind_of_ok {m : Move State} {state : State} (h : m.result = .ok state) (next : State → Account) :
    behind m next = ⟨m.notes ++ (next state).notes, (next state).outcome⟩ := by
  rw [behind, h]

theorem behind_andThen (m : Move State) (later : State → Move State) (next : State → Account) :
    behind (m.andThen later) next = behind m fun state => behind (later state) next := by
  cases h : m.result with
  | error e  => rw [Move.andThen_of_error h, behind_of_error h, behind_of_error rfl]
  | ok state =>
    rw [Move.andThen_of_ok h, behind_of_ok h]
    cases h' : (later state).result with
    | error e   => rw [behind_of_error rfl, behind_of_error h']
    | ok state' => rw [behind_of_ok rfl, behind_of_ok h', List.append_assoc]

end Account

def Reading.account {σ : Type} (r : Reading σ) : Account := ⟨r.notes, r.outcome⟩

section Streams

variable {σ : Type} [TokenStream σ] {settings : Settings} {state : State} {source rest : σ}

theorem account_of_end {token : Token} (h : TokenStream.next source = (.ok token, rest))
    (hk : token.kind = .endOfInput) : (read settings state source).account = .ending token.position state := by
  rw [read_of_end h hk]
  rfl

theorem account_of_failure {e : LexError} (h : TokenStream.next source = (.error e, rest)) :
    (read settings state source).account = .failure e := by
  rw [read_of_failure h]
  rfl

theorem account_of_token {token : Token} (h : TokenStream.next source = (.ok token, rest))
    (hk : token.kind ≠ .endOfInput) : (read settings state source).account =
      .behind (state.advance settings token) fun s => (read settings s rest).account := by
  rw [read_of_token h hk]
  cases hmove : (state.advance settings token).result with
  | error e => rw [Account.behind_of_error hmove]; rfl
  | ok s    => rw [Account.behind_of_ok hmove]; rfl

end Streams

/-- **Reading a list of tokens is a run over them**, and then the end of the input. -/
theorem account_tokens (settings : Settings) (last : Position) : ∀ {tokens : List Token},
    (∀ t ∈ tokens, t.kind ≠ .endOfInput) → ∀ state : State,
      (read settings state (⟨tokens, last⟩ : TokenList)).account =
        .behind (state.run settings tokens) (.ending last)
  | [],            _,  _     => by
    have hnext : TokenStream.next (⟨[], last⟩ : TokenList) = (.ok (.endOfInput last), ⟨[], last⟩) := rfl
    exact account_of_end hnext rfl
  | token :: rest, hk, state => by
    have hnext : TokenStream.next (⟨token :: rest, last⟩ : TokenList) = (.ok token, ⟨rest, last⟩) := rfl
    have hrest : ∀ t ∈ rest, t.kind ≠ .endOfInput := fun t ht => hk t (List.mem_cons_of_mem token ht)
    rw [account_of_token hnext (hk token List.mem_cons_self), State.run, Account.behind_andThen]
    exact congrArg _ (funext fun s => account_tokens settings last hrest s)

/-! ## Building from a stream -/

/-- The rules of an account behind those of a program, if it tells of no error. -/
def Account.result (program : Program) (a : Account) : Except Error Program :=
  match a.outcome with
  | .ok ()   => .ok (program.addRules (Note.rules a.notes))
  | .error e => .error e

theorem Account.result_eq_ok {program q : Program} : ∀ {a : Account},
    a.result program = .ok q ↔ a.outcome = .ok () ∧ q = program.addRules (Note.rules a.notes)
  | ⟨_, .error _⟩ => ⟨nofun, fun h => nomatch h.1⟩
  | ⟨_, .ok ()⟩   => ⟨fun h => ⟨rfl, (Except.ok.inj h).symm⟩, fun h => congrArg Except.ok h.2.symm⟩

theorem Account.result_eq_error {program : Program} {e : Error} : ∀ {a : Account},
    a.result program = .error e ↔ a.outcome = .error e
  | ⟨_, .error _⟩ => ⟨fun h => congrArg _ (Except.error.inj h), fun h => congrArg _ (Except.error.inj h)⟩
  | ⟨_, .ok ()⟩   => ⟨nofun, nofun⟩

theorem Account.result_behind_of_error {m : Move State} {e : ParseError} (h : m.result = .error e)
    (next : State → Account) (program : Program) : (behind m next).result program = .error (.parse e) := by
  rw [behind_of_error h]
  rfl

/-- What is read on from a state goes behind the rules that were completed on the way to it. -/
theorem Account.result_behind_of_ok {m : Move State} {state : State} (h : m.result = .ok state)
    (next : State → Account) (program : Program) :
    (behind m next).result program = (next state).result (program.addRules (Note.rules m.notes)) := by
  rw [behind_of_ok h, result, result]
  cases (next state).outcome with
  | error e => rfl
  | ok _    =>
    show Except.ok (program.addRules (Note.rules (_ ++ _))) = _
    rw [Note.rules_append, Program.addRules, List.map_append, ← List.append_assoc]
    rfl

theorem result_build_eq_result {σ : Type} [TokenStream σ] (program : Program) (settings : Settings) (source : σ) :
    (program.build settings source).result = (read settings .statement source).account.result program := rfl

end RuleFile
