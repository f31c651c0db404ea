import RuleFile.Proofs.Streaming
/-!
# Rows further down

The grammar does the same in every row of a file.  `down` moves everything that has a place so many rows further down:
tokens, what is open, errors and events.  A token further down makes the same move further down (`advance_down`), and so
what is told of a text that starts further down is the same as on its own, further down (`ofLexemes_down`).
-/
namespace RuleFile

open Grammar

/-! ## Moving things down -/

def Position.down (rows : Nat) (p : Position) : Position := ⟨p.row + rows, p.column⟩

def Token.down (rows : Nat) (t : Token) : Token := { t with position := t.position.down rows }

def LexError.down (rows : Nat) (e : LexError) : LexError := ⟨e.cause, e.position.down rows⟩

def ParseError.down (rows : Nat) (e : ParseError) : ParseError := ⟨e.cause, e.position.down rows⟩

/-- Errors of expansion have no place. -/
def Error.down (rows : Nat) : Error → Error
  | lex e    => lex (e.down rows)
  | parse e  => parse (e.down rows)
  | expand e => expand e

def Event.down (rows : Nat) : Event → Event
  | assignmentSkipped name row => assignmentSkipped name (row + rows)
  | termDropped found p        => termDropped found (p.down rows)
  | literalIgnored kind row    => literalIgnored kind (row + rows)
  | tokenIgnored kind p        => tokenIgnored kind (p.down rows)
  | commentIgnored row         => commentIgnored (row + rows)
  | event                      => event

namespace Grammar

def Note.down (rows : Nat) : Note → Note
  | rule r  => rule r
  | event e => event (e.down rows)

def Slot.down (rows : Nat) : Slot → Slot
  | front start => front (start.down rows)
  | line l      => line l

def State.down (rows : Nat) : State → State
  | reference slot seen => reference (slot.down rows) seen
  | front term start    => front term (start.down rows)
  | literal token       => literal (token.down rows)
  | state               => state

def Move.down (rows : Nat) (m : Move State) : Move State :=
  ⟨m.notes.map (Note.down rows), (m.result.map (State.down rows)).mapError (ParseError.down rows)⟩

end Grammar

def Account.down (rows : Nat) (a : Account) : Account :=
  ⟨a.notes.map (Note.down rows), a.outcome.mapError (Error.down rows)⟩

/-! ## One token -/

namespace Grammar

open Move

section

variable {settings : Settings} {rows : Nat}

theorem accept_down (slot : Slot) (term : Term) : (slot.down rows).accept term = (slot.accept term).down rows := by
  cases slot <;> rfl

theorem kind_down (token : Token) : (token.down rows).kind = token.kind := rfl

theorem startStatement_down (token : Token) : startStatement (token.down rows) = (startStatement token).down rows := by
  unfold startStatement
  rw [kind_down]
  cases token.kind <;> rfl

theorem continueReference_down (slot : Slot) (seen : Reference) (token : Token) :
    continueReference (slot.down rows) seen (token.down rows) = (continueReference slot seen token).down rows := by
  unfold continueReference
  rw [kind_down]
  cases seen <;> cases token.kind <;> simp only [accept_down] <;> rfl

theorem continueFront_down (term : Term) (start : Position) (token : Token) :
    continueFront settings term (start.down rows) (token.down rows) =
      (continueFront settings term start token).down rows := by
  unfold continueFront
  rw [kind_down]
  cases token.kind with
  | equals => cases hs : settings.strict <;> rfl
  | _      => rfl

theorem continueLiteral_down (literal token : Token) :
    continueLiteral (literal.down rows) (token.down rows) = (continueLiteral literal token).down rows := by
  unfold continueLiteral
  rw [kind_down, startStatement_down]
  cases token.kind <;> rfl

theorem continueLine_down (l : OpenLine) (token : Token) :
    continueLine l (token.down rows) = (continueLine l token).down rows := by
  unfold continueLine
  rw [kind_down]
  cases token.kind <;> rfl

theorem continueRule_down (rule : Rule) (token : Token) :
    continueRule rule (token.down rows) = (continueRule rule token).down rows := by
  unfold continueRule
  rw [kind_down, startStatement_down]
  split <;> rfl

/-- **A token further down makes the same move further down.** -/
theorem advance_down (state : State) (token : Token) :
    (state.down rows).advance settings (token.down rows) = (state.advance settings token).down rows := by
  cases state with
  | statement           => exact startStatement_down token
  | reference slot seen => exact continueReference_down slot seen token
  | front term start    => exact continueFront_down term start token
  | literal t           => exact continueLiteral_down t token
  | line l              => exact continueLine_down l token
  | rule r              => exact continueRule_down r token
  | skipping            =>
    show (if token.kind = .newline then goTo .statement else goTo .skipping) = Move.down rows (if _ then _ else _)
    split <;> rfl

/-! ## The rest of a text -/

theorem ending_down (p : Position) (state : State) :
    Account.ending (p.down rows) (state.down rows) = (Account.ending p state).down rows := by
  cases state <;> rfl

theorem behind_down (m : Move State) {next later : State → Account}
    (h : ∀ s, later (s.down rows) = (next s).down rows) :
    Account.behind (m.down rows) later = (Account.behind m next).down rows := by
  cases hm : m.result with
  | error e =>
    have hdown : (m.down rows).result = .error (e.down rows) := by
      rw [Move.down, hm]
      rfl
    rw [Account.behind_of_error hm, Account.behind_of_error hdown]
    rfl
  | ok s =>
    have hdown : (m.down rows).result = .ok (s.down rows) := by
      rw [Move.down, hm]
      rfl
    rw [Account.behind_of_ok hm, Account.behind_of_ok hdown, h s]
    show _ = Account.mk ((m.notes ++ (next s).notes).map (Note.down rows)) _
    rw [List.map_append]
    rfl

theorem after_down (p : Position) (kind : Token.Kind) : (p.down rows).after kind = (p.after kind).down rows := by
  unfold Position.after
  split
  · simp [Position.nextRow, Position.down, Nat.add_right_comm]
  · rfl

/-- **A text that starts further down is read as on its own, further down.** -/
theorem ofLexemes_down : ∀ (lexemes : List Lexeme) (p : Position) (state : State),
    Account.ofLexemes settings (p.down rows) lexemes (state.down rows) =
      (Account.ofLexemes settings p lexemes state).down rows
  | [],                            p, state => ending_down p state
  | .failure cause :: _,           p, _     => rfl
  | .token kind text n :: lexemes, p, state => by
    have hmove : (state.down rows).advance settings ⟨kind, String.ofList text, n, p.down rows⟩ =
        (state.advance settings ⟨kind, String.ofList text, n, p⟩).down rows :=
      advance_down state ⟨kind, String.ofList text, n, p⟩
    rw [Account.ofLexemes, Account.ofLexemes, after_down, hmove]
    exact behind_down _ fun s => ofLexemes_down lexemes (p.after kind) s

end
end Grammar

/-! ## What stays -/

theorem rules_down (rows : Nat) : ∀ notes : List Note, Note.rules (notes.map (Note.down rows)) = Note.rules notes
  | []                => rfl
  | .rule r :: notes  => congrArg (r :: ·) (rules_down rows notes)
  | .event _ :: notes => rules_down rows notes

end RuleFile
