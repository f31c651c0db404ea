import RuleFile.Grammar
import RuleFile.Program
import RuleFile.TokenStream
/-!
# Reading rule files

`read` runs the grammar over a stream of tokens, up to the end of input or to the first error, and `Program.build` adds
the rules it completes to a program.  Rules completed before an error are kept, and the stream is left right after the
last token looked at, so that a later reading can go on from there.
-/
namespace RuleFile

open Grammar (State Note)

/-! ## Streams

A reading looks at every token once, in the state that the tokens before it have left.  What it notes is kept when it
ends with an error, and so is the rest of the stream, behind the token or the piece at fault. -/

structure Reading (σ : Type) where
  notes   : List Note
  outcome : Except Error Unit
  rest    : σ

def parseOutcome : Except ParseError Unit → Except Error Unit
  | .ok ()   => .ok ()
  | .error e => .error (.parse e)

def read {σ : Type} [TokenStream σ] (settings : Settings) (state : State) (source : σ) : Reading σ :=
  match _h : TokenStream.next source with
  | (.error e, rest)  => ⟨[], .error (.lex e), rest⟩
  | (.ok token, rest) =>
    if _hk : token.kind = .endOfInput then
      let move := state.finish token.position
      ⟨move.notes, parseOutcome move.result, rest⟩
    else
      let move := state.advance settings token
      match move.result with
      | .error e   => ⟨move.notes, .error (.parse e), rest⟩
      | .ok state' =>
        let later := read settings state' rest
        ⟨move.notes ++ later.notes, later.outcome, later.rest⟩
termination_by TokenStream.size source
decreasing_by exact TokenStream.size_next _h _hk

/-! ## Programs

The rules of a stream are added behind the statements of a program, also when the reading ends with an error.  A text
and a list of tokens are read into the empty program. -/

structure Build (σ : Type) where
  program : Program
  notes   : List Note
  outcome : Except Error Unit
  rest    : σ

namespace Build

/-- The program, if the reading came to the end of input. -/
def result {σ : Type} (b : Build σ) : Except Error Program :=
  match b.outcome with
  | .ok ()   => .ok b.program
  | .error e => .error e

def events {σ : Type} (b : Build σ) : List Event := Note.events b.notes

theorem result_eq_ok {σ : Type} {p : Program} : ∀ {b : Build σ}, b.result = .ok p ↔ b.outcome = .ok () ∧ b.program = p
  | ⟨_, _, .error _, _⟩ => ⟨nofun, fun h => nomatch h.1⟩
  | ⟨_, _, .ok (), _⟩   => ⟨fun h => ⟨rfl, Except.ok.inj h⟩, fun h => congrArg Except.ok h.2⟩

theorem result_eq_error {σ : Type} {e : Error} : ∀ {b : Build σ}, b.result = .error e ↔ b.outcome = .error e
  | ⟨_, _, .error _, _⟩ => ⟨fun h => congrArg _ (Except.error.inj h), fun h => congrArg _ (Except.error.inj h)⟩
  | ⟨_, _, .ok (), _⟩   => ⟨nofun, nofun⟩

end Build

namespace Program

def addRules (program : Program) (rules : List Rule) : Program :=
  { program with statements := program.statements ++ rules.map .rule }

def build {σ : Type} [TokenStream σ] (program : Program) (settings : Settings) (source : σ) : Build σ :=
  let reading := read settings .statement source
  ⟨program.addRules (Note.rules reading.notes), reading.notes, reading.outcome, reading.rest⟩

end Program

def parseText (settings : Settings) (text : String) : Build Scanner :=
  Program.empty.build settings (Scanner.ofText text)

def parseTokens (settings : Settings) (tokens : List Token) : Build TokenList :=
  Program.empty.build settings (TokenList.ofTokens tokens)

end RuleFile
