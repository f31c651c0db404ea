import RuleFile.Grammar
import RuleFile.TokenStream
/-!
# Rule files line by line

A second reading of rule files, without a machine: the tokens are cut into lines at the line breaks, and the lines are
read one by one (`readLines`).  All that one line hands to the next is one bit, whether it belongs to a rule that is
open.  Where a rule is open, a tab makes a line one of its recipe; any other line is read on its own
(`readStatements`).

`readLines` keeps nothing of a rule while it is open.  It gives the recipe lines that belong to the rule before the
first line, which the header of that rule then takes.
-/
namespace RuleFile.Lines

/-! ## Lines -/

/-- The tokens of a line, and the token that ends it: a line break, or the end of input. -/
structure Line where
  tokens : List Token
  stop   : Token
  deriving DecidableEq, Repr

def endsLine (token : Token) : Bool := token.kind == .newline

/-- The lines of some tokens, behind which the input ends at `last`. -/
def lines (last : Position) (tokens : List Token) : List Line :=
  match _h : tokens.dropWhile (fun t => !endsLine t) with
  | []            => [⟨tokens, .endOfInput last⟩]
  | stop :: later => ⟨tokens.takeWhile fun t => !endsLine t, stop⟩ :: lines last later
termination_by tokens.length
decreasing_by
  have hlen := (List.dropWhile_suffix (l := tokens) fun t => !endsLine t).length_le
  rw [_h, List.length_cons] at hlen
  omega

theorem forall_not_endsLine {tokens : List Token} (h : ∀ t ∈ tokens, t.kind ≠ .newline) :
    ∀ t ∈ tokens, (!endsLine t) = true := fun t ht => by simp [endsLine, h t ht]

theorem lines_of_forall {last : Position} {tokens : List Token} (h : ∀ t ∈ tokens, t.kind ≠ .newline) :
    lines last tokens = [⟨tokens, .endOfInput last⟩] := by
  have hdrop : tokens.dropWhile (fun t => !endsLine t) = [] := by
    rw [← List.append_nil tokens, List.dropWhile_append_of_pos (forall_not_endsLine h)]
    rfl
  rw [lines]
  split
  · rfl
  · rename_i heq
    rw [hdrop] at heq
    cases heq

theorem lines_append {last : Position} {tokens : List Token} {stop : Token} (h : ∀ t ∈ tokens, t.kind ≠ .newline)
    (hstop : stop.kind = .newline) (later : List Token) :
    lines last (tokens ++ stop :: later) = ⟨tokens, stop⟩ :: lines last later := by
  have htake : (tokens ++ stop :: later).takeWhile (fun t => !endsLine t) = tokens := by
    rw [List.takeWhile_append_of_pos (forall_not_endsLine h)]
    simp [endsLine, hstop]
  have hdrop : (tokens ++ stop :: later).dropWhile (fun t => !endsLine t) = stop :: later := by
    rw [List.dropWhile_append_of_pos (forall_not_endsLine h)]
    simp [endsLine, hstop]
  rw [lines]
  split
  · rename_i heq
    rw [hdrop] at heq
    cases heq
  · rename_i heq
    rw [hdrop] at heq
    cases heq
    rw [htake]

/-! ## Terms -/

def unexpected (found : Token) (expected : List Token.Kind) : ParseError :=
  ⟨.unexpectedToken found.kind expected, found.position⟩

/-- The next token of a line, of one of the kinds expected.  Behind the last token comes the one that ends the line. -/
def require (expected : List Token.Kind) (stop : Token) : List Token → Except ParseError (Token × List Token)
  | []            => .error (unexpected stop expected)
  | token :: rest => if token.kind ∈ expected then .ok (token, rest) else .error (unexpected token expected)

/-- What follows a `$`: `<`, or a name in parentheses. -/
def readReference (stop : Token) (tokens : List Token) : Except ParseError (Term × List Token) := do
  let (opening, tokens) ← require [.leftParen, .lessThan] stop tokens
  if opening.kind = .lessThan then
    return (.allPrerequisites, tokens)
  let (name, tokens) ← require [.identifier] stop tokens
  let (_, tokens) ← require [.rightParen] stop tokens
  return (.named name.text, tokens)

def beginsTerm (token : Token) : Bool := token.kind == .identifier || token.kind == .dollar

def readTerm (stop token : Token) (rest : List Token) : Except ParseError (Term × List Token) :=
  if token.kind = .dollar then readReference stop rest else .ok (.identifier token.text, rest)

theorem suffix_of_require {expected : List Token.Kind} {stop token : Token} {tokens rest : List Token}
    (h : require expected stop tokens = .ok (token, rest)) : rest <:+ tokens := by
  cases tokens with
  | nil       => cases h
  | cons t ts =>
    simp only [require] at h
    split at h
    · cases h
      exact List.suffix_cons token rest
    · cases h

theorem suffix_of_readReference {stop : Token} {tokens rest : List Token} {term : Term}
    (h : readReference stop tokens = .ok (term, rest)) : rest <:+ tokens := by
  unfold readReference at h
  cases h1 : require [.leftParen, .lessThan] stop tokens with
  | error e => rw [h1] at h; cases h
  | ok opened =>
    obtain ⟨opening, tokens1⟩ := opened
    have hs1 := suffix_of_require h1
    simp only [h1, bind, Except.bind, pure, Except.pure] at h
    split at h
    · cases h
      exact hs1
    cases h2 : require [.identifier] stop tokens1 with
    | error e => rw [h2] at h; cases h
    | ok named =>
      obtain ⟨name, tokens2⟩ := named
      have hs2 := suffix_of_require h2
      simp only [h2] at h
      cases h3 : require [.rightParen] stop tokens2 with
      | error e => rw [h3] at h; cases h
      | ok closed =>
        obtain ⟨closing, tokens3⟩ := closed
        have hs3 := suffix_of_require h3
        simp only [h3] at h
        cases h
        exact (hs3.trans hs2).trans hs1

theorem suffix_of_readTerm {stop token : Token} {tokens rest : List Token} {term : Term}
    (h : readTerm stop token tokens = .ok (term, rest)) : rest <:+ tokens := by
  unfold readTerm at h
  split at h
  · exact suffix_of_readReference h
  · cases h
    exact List.suffix_rfl

/-- The rest of a line as terms, with spaces anywhere between them. -/
def readTerms (stop : Token) : List Token → Except ParseError (List Term)
  | []            => .ok []
  | token :: rest =>
    if token.kind = .space then readTerms stop rest
    else if beginsTerm token then
      match _h : readTerm stop token rest with
      | .error e         => .error e
      | .ok (term, rest') => (readTerms stop rest').map (term :: ·)
    else .error (unexpected token [.identifier, .dollar, .space, .newline])
termination_by tokens => tokens.length
decreasing_by
  · exact Nat.lt_succ_self _
  · exact Nat.lt_succ_of_le (suffix_of_readTerm _h).length_le

theorem readTerms_nil (stop : Token) : readTerms stop [] = .ok [] := by rw [readTerms]

theorem readTerms_space {stop token : Token} (h : token.kind = .space) (rest : List Token) :
    readTerms stop (token :: rest) = readTerms stop rest := by
  rw [readTerms, if_pos h]

theorem readTerms_term {stop token : Token} {rest rest' : List Token} {term : Term} (hterm : beginsTerm token = true)
    (hread : readTerm stop token rest = .ok (term, rest')) :
    readTerms stop (token :: rest) = (readTerms stop rest').map (term :: ·) := by
  have hspace : token.kind ≠ .space := by
    intro h
    simp [beginsTerm, h] at hterm
  rw [readTerms, if_neg hspace, if_pos hterm]
  split
  · rename_i h
    rw [hread] at h
    cases h
  · rename_i h
    rw [hread] at h
    cases h
    rfl

/-! ## Lines on their own -/

/-- What a line is that belongs to no open rule. -/
inductive Content where
  | nothing
  | header (target : Term) (prerequisites : List Term)
  deriving DecidableEq, Repr

/-- How far a line is known: what it is, or what is still to be read. -/
inductive Progress where
  | known (content : Content)
  | unread (rest : List Token)

def dropSpaces (tokens : List Token) : List Token := tokens.dropWhile fun t => t.kind == .space

/-- The line behind a term that starts at `start`, and spaces.  A colon makes it the header of a rule.  Any token but an
equals sign or a `#` is dropped. -/
def afterTerm (settings : Settings) (stop : Token) (term : Term) (start : Position) :
    List Token → Except ParseError Progress
  | []           => .ok (.known .nothing)
  | next :: rest =>
    match next.kind with
    | .colon  => (readTerms stop rest).map fun terms => .known (.header term terms)
    | .equals =>
      if settings.strict then .error ⟨.unsupportedAssignment (term.name?.getD ""), start⟩ else .ok (.known .nothing)
    | .hash   => .ok (.known .nothing)
    | _       => .ok (.unread rest)

def afterLiteral (literal : Token) : List Token → Except ParseError Progress
  | []           => .ok (.known .nothing)
  | next :: rest =>
    if next.kind = .colon then .error ⟨.invalidTarget literal.text, literal.position⟩ else .ok (.unread (next :: rest))

/-- A line whose next token is `token`: that token, and what belongs to it. -/
def readStatement (settings : Settings) (stop token : Token) (rest : List Token) : Except ParseError Progress :=
  match token.kind with
  | .identifier | .dollar => do
    let (term, rest) ← readTerm stop token rest
    afterTerm settings stop term token.position (dropSpaces rest)
  | .number | .singleQuoteLiteral | .doubleQuoteLiteral => afterLiteral token (dropSpaces rest)
  | .hash => .ok (.known .nothing)
  | _     => .ok (.unread rest)

theorem suffix_dropSpaces (tokens : List Token) : dropSpaces tokens <:+ tokens := List.dropWhile_suffix _

theorem suffix_of_afterTerm {settings : Settings} {stop : Token} {term : Term} {start : Position}
    {tokens rest : List Token} (h : afterTerm settings stop term start tokens = .ok (.unread rest)) :
    rest <:+ tokens := by
  cases tokens with
  | nil       => cases h
  | cons t ts =>
    simp only [afterTerm] at h
    split at h
    · cases hterms : readTerms stop ts <;> rw [hterms] at h <;> cases h
    · split at h <;> cases h
    · cases h
    · cases h
      exact List.suffix_cons t rest

theorem suffix_of_afterLiteral {literal : Token} {tokens rest : List Token}
    (h : afterLiteral literal tokens = .ok (.unread rest)) : rest <:+ tokens := by
  cases tokens with
  | nil       => cases h
  | cons t ts =>
    simp only [afterLiteral] at h
    split at h
    · cases h
    · cases h
      exact List.suffix_rfl

theorem suffix_of_readStatement {settings : Settings} {stop token : Token} {tokens rest : List Token}
    (h : readStatement settings stop token tokens = .ok (.unread rest)) : rest <:+ tokens := by
  have hterm (h : (readTerm stop token tokens >>= fun p =>
      afterTerm settings stop p.1 token.position (dropSpaces p.2)) = .ok (.unread rest)) : rest <:+ tokens := by
    cases hread : readTerm stop token tokens with
    | error e => rw [hread] at h; cases h
    | ok p =>
      rw [hread] at h
      exact ((suffix_of_afterTerm h).trans (suffix_dropSpaces p.2)).trans (suffix_of_readTerm hread)
  have hliteral (h : afterLiteral token (dropSpaces tokens) = .ok (.unread rest)) : rest <:+ tokens :=
    (suffix_of_afterLiteral h).trans (suffix_dropSpaces tokens)
  unfold readStatement at h
  split at h
  · exact hterm h
  · exact hterm h
  · exact hliteral h
  · exact hliteral h
  · exact hliteral h
  · cases h
  · cases h
    exact List.suffix_rfl

/-- A line that belongs to no open rule. -/
def readStatements (settings : Settings) (stop : Token) : List Token → Except ParseError Content
  | []            => .ok .nothing
  | token :: rest =>
    match _h : readStatement settings stop token rest with
    | .error e            => .error e
    | .ok (.known content) => .ok content
    | .ok (.unread rest')   => readStatements settings stop rest'
termination_by tokens => tokens.length
decreasing_by exact Nat.lt_succ_of_le (suffix_of_readStatement _h).length_le

def proceed (settings : Settings) (stop : Token) : Progress → Except ParseError Content
  | .known content => .ok content
  | .unread rest   => readStatements settings stop rest

theorem readStatements_nil (settings : Settings) (stop : Token) : readStatements settings stop [] = .ok .nothing := by
  rw [readStatements]

theorem readStatements_cons (settings : Settings) (stop token : Token) (rest : List Token) :
    readStatements settings stop (token :: rest) =
      readStatement settings stop token rest >>= proceed settings stop := by
  rw [readStatements]
  split <;> (rename_i h; rw [h]; rfl)

/-! ## All lines -/

def Line.recipe? (line : Line) : Option (List Token) :=
  match line.tokens with
  | []            => none
  | token :: rest => if token.kind = .tab then some rest else none

/-- Reads lines in their order.  `isOpen` says whether the line before belongs to a rule.  The recipe lines in front of
the first header go to that rule, and the rules are those whose headers follow. -/
def readLines (settings : Settings) : (isOpen : Bool) → List Line → Except ParseError (List RecipeLine × List Rule)
  | _,      []            => .ok ([], [])
  | isOpen, line :: later =>
    match isOpen, line.recipe? with
    | true, some tokens => do
      let terms ← readTerms line.stop tokens
      let (recipe, rules) ← readLines settings true later
      return (terms :: recipe, rules)
    | _, _ => do
      match ← readStatements settings line.stop line.tokens with
      | .nothing =>
        let (_, rules) ← readLines settings false later
        return ([], rules)
      | .header target prerequisites =>
        let (recipe, rules) ← readLines settings true later
        return ([], ⟨target, prerequisites, recipe, false⟩ :: rules)

section

variable {settings : Settings}

theorem readLines_nil (isOpen : Bool) : readLines settings isOpen [] = .ok ([], []) := by cases isOpen <;> rfl

theorem readLines_of_none {isOpen : Bool} {line : Line} {later : List Line} (h : line.recipe? = none) :
    readLines settings isOpen (line :: later) = readLines settings false (line :: later) := by
  cases isOpen with
  | false => rfl
  | true  => simp only [readLines, h]

theorem readLines_false_of_header {line : Line} {later : List Line} {target : Term} {prerequisites : List Term}
    (h : readStatements settings line.stop line.tokens = .ok (.header target prerequisites)) :
    readLines settings false (line :: later) =
      (readLines settings true later).map fun p => ([], ⟨target, prerequisites, p.1, false⟩ :: p.2) := by
  simp only [readLines, h, bind, Except.bind]
  cases readLines settings true later <;> rfl

theorem readLines_false_of_nothing {line : Line} {later : List Line}
    (h : readStatements settings line.stop line.tokens = .ok .nothing) :
    readLines settings false (line :: later) = (readLines settings false later).map fun p => ([], p.2) := by
  simp only [readLines, h, bind, Except.bind]
  cases readLines settings false later <;> rfl

theorem readLines_true_of_recipe {line : Line} {later : List Line} {tokens : List Token}
    (h : line.recipe? = some tokens) :
    readLines settings true (line :: later) =
      readTerms line.stop tokens >>= fun terms =>
        (readLines settings true later).map fun p => (terms :: p.1, p.2) := by
  simp only [readLines, h, bind, Except.bind]
  cases readTerms line.stop tokens with
  | error e  => rfl
  | ok terms => cases readLines settings true later <;> rfl

end

/-- The rules of a list of tokens, read line by line. -/
def rulesOf (settings : Settings) (source : TokenList) : Except ParseError (List Rule) :=
  (readLines settings false (lines source.last source.rest)).map Prod.snd

end RuleFile.Lines
