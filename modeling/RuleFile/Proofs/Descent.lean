import RuleFile.Proofs.Runs
/-!
# Reading by descent

The grammar can also be read top down: statements ask for a rule, a rule for its lines, a line for its terms, and each
of them for as many tokens as it needs.  What ends a line, a recipe or a run of spaces may be a token that belongs to
what comes next.  It is put back into a slot in front of the stream, which has room for one (`Lookahead`).

A descent can go wrong by an error, and by putting a token back where one is put back already (`Fault.slotTaken`).
Nothing in it says that its loops come to an end, so each has a number of rounds, and a descent can also need more
than it has (`Fault.outOfRounds`).
-/
namespace RuleFile

open Grammar

/-! ## Tokens that are put back

A stream with a slot in front of it is a stream again: what it hands out first is the token in the slot.  Its size
counts that token, unless it is an end of input, since nothing comes after one that has been put back. -/

structure Lookahead (σ : Type) where
  source : σ
  slot   : Option Token

namespace Lookahead

variable {σ : Type} [TokenStream σ]

def next (l : Lookahead σ) : Except LexError Token × Lookahead σ :=
  match l.slot with
  | some token => (.ok token, ⟨l.source, none⟩)
  | none       => ((TokenStream.next l.source).1, ⟨(TokenStream.next l.source).2, none⟩)

def size (l : Lookahead σ) : Nat :=
  match l.slot with
  | some token => if token.kind = .endOfInput then 0 else TokenStream.size l.source + 1
  | none       => TokenStream.size l.source

theorem size_putBack {source : σ} {token : Token} (hk : token.kind ≠ .endOfInput) :
    size ⟨source, some token⟩ = TokenStream.size source + 1 := if_neg hk

theorem size_putBack_endOfInput {source : σ} {token : Token} (hk : token.kind = .endOfInput) :
    size ⟨source, some token⟩ = 0 := if_pos hk

theorem size_next {l l' : Lookahead σ} {t : Token} (h : l.next = (.ok t, l')) (hk : t.kind ≠ .endOfInput) :
    l'.size < l.size := by
  obtain ⟨source, slot⟩ := l
  cases slot with
  | some token =>
    cases h
    rw [size_putBack hk]
    exact Nat.lt_succ_self _
  | none       =>
    cases h' : TokenStream.next source with
    | mk item rest =>
    simp only [next, h', Prod.mk.injEq] at h
    obtain ⟨rfl, rfl⟩ := h
    exact TokenStream.size_next h' hk

instance : TokenStream (Lookahead σ) where
  next := next
  size := size
  size_next := size_next

end Lookahead

/-! ## Descents

A descent goes from one reader to the next, or to a fault.  Its reader keeps what has been noted when it goes wrong too,
as rules are known that were complete before. -/

namespace Descent

inductive Fault where
  | error (e : Error)
  | slotTaken
  | outOfRounds
  deriving DecidableEq, Repr

structure Reader (σ : Type) where
  ahead : Lookahead σ
  notes : List Note

end Descent

open Descent (Fault Reader)

abbrev Descent (σ : Type) := ExceptT Fault (StateM (Reader σ))

namespace Descent

variable {σ : Type} [TokenStream σ] {α : Type}

def on (m : Descent σ α) (r : Reader σ) : Except Fault α × Reader σ := (m.run.run r).run

/-! ### Single steps

A descent takes a token, puts one back, notes something or goes wrong, and does nothing else. -/

def ofItem : Except LexError Token → Descent σ Token
  | .ok token => return token
  | .error e  => throw (.error (.lex e))

def next : Descent σ Token := do
  let r ← get
  let (item, ahead) := r.ahead.next
  set (⟨ahead, r.notes⟩ : Reader σ)
  ofItem item

def putBack (token : Token) : Descent σ Unit := do
  let r ← get
  match r.ahead.slot with
  | none   => set (⟨⟨r.ahead.source, some token⟩, r.notes⟩ : Reader σ)
  | some _ => throw .slotTaken

def note (n : Note) : Descent σ Unit := modify fun r => ⟨r.ahead, r.notes ++ [n]⟩

def fail (cause : ParseError.Cause) (p : Position) : Descent σ α := throw (.error (.parse ⟨cause, p⟩))

def unexpected (token : Token) (expected : List Token.Kind) : Descent σ α :=
  fail (.unexpectedToken token.kind expected) token.position

/-! ### Terms and lines

A reference is read behind its `$`, and a term from its first token on.  Spaces are skipped up to a token that is none,
and a line up to its end; a line that is skipped is read from a token of it on, which takes a round.  A line of a rule
is read behind the terms that it has already. -/

def reference : Descent σ Term := do
  let token ← next
  match token.kind with
  | .lessThan  => return .allPrerequisites
  | .leftParen => do
    let name ← next
    if name.kind ≠ .identifier then unexpected name [.identifier]
    else do
      let close ← next
      if close.kind ≠ .rightParen then unexpected close [.rightParen] else return .named name.text
  | _          => unexpected token [.leftParen, .lessThan]

def term (token : Token) : Descent σ Term :=
  match token.kind with
  | .identifier => return .identifier token.text
  | .dollar     => reference
  | _           => unexpected token [.identifier, .dollar]

def skipSpaces : Nat → Descent σ Token
  | 0     => throw .outOfRounds
  | n + 1 => do
    let token ← next
    if token.kind = .space then skipSpaces n else return token

def skipLine : Nat → Token → Descent σ Unit
  | 0,     _     => throw .outOfRounds
  | n + 1, token =>
    match token.kind with
    | .newline    => return ()
    | .endOfInput => putBack token
    | _           => do
      let token' ← next
      skipLine n token'

def line : Nat → List Term → Descent σ (List Term)
  | 0,     _     => throw .outOfRounds
  | n + 1, terms => do
    let token ← next
    match token.kind with
    | .newline    => return terms
    | .endOfInput => do
      putBack token
      return terms
    | .space      => line n terms
    | .identifier => do
      let t ← term token
      line n (terms ++ [t])
    | .dollar     => do
      let t ← term token
      line n (terms ++ [t])
    | _           => unexpected token lineKinds

/-! ### Statements

A rule is read behind its colon and an assignment behind its equals sign, each with the term in front of it and the
place where that starts.  The token that ends a recipe is put back, and so is the one behind a literal: it may begin the
next statement.  The token behind a term that is dropped goes with it, unless it is the end of input. -/

def recipe : Nat → List RecipeLine → Descent σ (List RecipeLine)
  | 0,     _     => throw .outOfRounds
  | n + 1, lines => do
    let token ← next
    if token.kind = .tab then do
      let terms ← line n []
      recipe n (lines ++ [terms])
    else do
      putBack token
      return lines

def rule (n : Nat) (target : Term) (start : Position) : Descent σ Rule :=
  if target.isSimple then do
    let prerequisites ← line n []
    let lines ← recipe n []
    return ⟨target, prerequisites, lines, false⟩
  else fail (.invalidTarget target.value) start

def assignment (settings : Settings) (n : Nat) (target : Term) (start : Position) : Descent σ Unit :=
  let name := target.name?.getD ""
  if settings.strict then fail (.unsupportedAssignment name) start
  else do
    note (.event (.assignmentSkipped name start.row))
    let token ← next
    skipLine n token

def afterTerm (settings : Settings) (n : Nat) (target : Term) (start : Position) (token : Token) : Descent σ Unit :=
  match token.kind with
  | .colon      => do
    let r ← rule n target start
    note (.rule r)
  | .equals     => assignment settings n target start
  | .hash       => skipLine (n + 1) token
  | .endOfInput => do
    note (.event (.termDropped .endOfInput token.position))
    putBack token
  | found       => note (.event (.termDropped found token.position))

def afterLiteral (literal token : Token) : Descent σ Unit :=
  if token.kind = .colon then fail (.invalidTarget literal.text) literal.position
  else do
    note (.event (.literalIgnored literal.kind literal.position.row))
    putBack token

def statement (settings : Settings) (n : Nat) (token : Token) : Descent σ Unit :=
  match token.kind with
  | .newline            => return ()
  | .identifier         => do
    let target ← term token
    let token' ← skipSpaces n
    afterTerm settings n target token.position token'
  | .dollar             => do
    let target ← term token
    let token' ← skipSpaces n
    afterTerm settings n target token.position token'
  | .number             => do
    let token' ← skipSpaces n
    afterLiteral token token'
  | .singleQuoteLiteral => do
    let token' ← skipSpaces n
    afterLiteral token token'
  | .doubleQuoteLiteral => do
    let token' ← skipSpaces n
    afterLiteral token token'
  | .hash               => do
    note (.event (.commentIgnored token.position.row))
    skipLine (n + 1) token
  | kind                => note (.event (.tokenIgnored kind token.position))

def statements (settings : Settings) : Nat → Descent σ Unit
  | 0     => throw .outOfRounds
  | n + 1 => do
    let token ← next
    if token.kind = .endOfInput then return ()
    else do
      statement settings n token
      statements settings n

end Descent

/-- Reads a stream from its first statement on, in up to `n` rounds. -/
def descend {σ : Type} [TokenStream σ] (settings : Settings) (n : Nat) (source : σ) :
    Except Descent.Fault Unit × Descent.Reader σ :=
  (Descent.statements settings n).on ⟨⟨source, none⟩, []⟩

end RuleFile
