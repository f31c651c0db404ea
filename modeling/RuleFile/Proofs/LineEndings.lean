import RuleFile.Proofs.LineBreaks
/-!
# How a line is ended

A line feed of a text may also be written as a carriage return with a line feed behind it, or as a carriage return alone
(`Rewritten`).  A piece of a text sees of what follows it only whether a line ends there, so the pieces of the two texts
are the same one by one, but for the length of their line breaks (`Rewritten.spells`).  The grammar asks for no length,
and so neither the tokens of a text nor what it is read as depend on how its lines are ended (`tokenize_rewritten`).
-/
namespace RuleFile

open Grammar

/-! ## Texts -/

/-- **A text with each of its line feeds written in one of three ways.**  All its other characters stay, and none of
them is a carriage return.  A carriage return with a line feed behind it would be one line ending, so a line feed that
is written as a carriage return has none behind it that stays one. -/
inductive Rewritten : List Char → List Char → Prop where
  | nil : Rewritten [] []
  | character {c : Char} {cs cs' : List Char} (hc : isLineBreak c = false) (h : Rewritten cs cs') :
      Rewritten (c :: cs) (c :: cs')
  | lineFeed {cs cs' : List Char} (h : Rewritten cs cs') : Rewritten ('\n' :: cs) ('\n' :: cs')
  | carriageReturnLineFeed {cs cs' : List Char} (h : Rewritten cs cs') : Rewritten ('\n' :: cs) ('\r' :: '\n' :: cs')
  | carriageReturn {cs cs' : List Char} (h : Rewritten cs cs') (hnext : cs'.head? ≠ some '\n') :
      Rewritten ('\n' :: cs) ('\r' :: cs')

namespace Rewritten

variable {cs cs' : List Char}

theorem head?_eq_or (h : Rewritten cs cs') :
    cs'.head? = cs.head? ∨ cs.head? = some '\n' ∧ cs'.head? = some '\r' := by
  cases h with
  | nil                    => exact .inl rfl
  | character              => exact .inl rfl
  | lineFeed               => exact .inl rfl
  | carriageReturnLineFeed => exact .inr ⟨rfl, rfl⟩
  | carriageReturn         => exact .inr ⟨rfl, rfl⟩

/-- A class of characters that no line break is in stops at the same place. -/
theorem forall_head? (h : Rewritten cs cs') {accept : Char → Bool} (hbreak : accept '\r' = false)
    (hcs : ∀ d ∈ cs.head?, accept d = false) : ∀ d ∈ cs'.head?, accept d = false := by
  intro d hd
  rcases h.head?_eq_or with heq | ⟨-, heq⟩
  · exact hcs d (heq ▸ hd)
  · rw [heq] at hd
    cases hd
    exact hbreak

theorem exists_isLineBreak (h : Rewritten cs cs') (hcs : ∃ d ∈ cs.head?, isLineBreak d = true) :
    ∃ d ∈ cs'.head?, isLineBreak d = true := by
  rcases h.head?_eq_or with heq | ⟨-, heq⟩
  · rwa [heq]
  · exact ⟨'\r', heq, rfl⟩

/-- What has no line break in it stays. -/
theorem append {piece rest : List Char} (hpiece : ∀ c ∈ piece, isLineBreak c = false)
    (h : Rewritten (piece ++ rest) cs') : ∃ rest', cs' = piece ++ rest' ∧ Rewritten rest rest' := by
  induction piece generalizing cs' with
  | nil => exact ⟨cs', rfl, h⟩
  | cons c piece ih =>
    rw [List.cons_append] at h
    cases h with
    | character _ hlater =>
      obtain ⟨rest', rfl, hrest⟩ := ih (fun d hd => hpiece d (List.mem_cons_of_mem c hd)) hlater
      exact ⟨rest', rfl, hrest⟩
    | lineFeed               => cases hpiece '\n' List.mem_cons_self
    | carriageReturnLineFeed => cases hpiece '\n' List.mem_cons_self
    | carriageReturn         => cases hpiece '\n' List.mem_cons_self

theorem withoutMark (h : Rewritten cs cs') : Rewritten (withoutMark cs) (RuleFile.withoutMark cs') := by
  cases h with
  | nil                           => exact .nil
  | lineFeed h                    => exact .lineFeed h
  | carriageReturnLineFeed h      => exact .carriageReturnLineFeed h
  | carriageReturn h hnext        => exact .carriageReturn h hnext
  | @character c cs cs' hc h =>
    by_cases hmark : c = '\ufeff'
    · subst hmark
      exact h
    · have hhead (ds : List Char) : (c :: ds).head? ≠ some '\ufeff' := fun heq => hmark (Option.some.inj heq)
      rw [withoutMark_of_head? (hhead cs), withoutMark_of_head? (hhead cs')]
      exact .character hc h

end Rewritten

/-! ## Pieces -/

/-- A line break as if it were a line feed. -/
def Lexeme.asLineFeed : Lexeme → Lexeme
  | token kind text n => token kind text (if kind = .newline then 1 else n)
  | failure cause     => failure cause

theorem Lexeme.asLineFeed_of_isNewline {lexeme : Lexeme} (h : lexeme.isNewline = false) :
    lexeme.asLineFeed = lexeme := by
  cases lexeme with
  | failure cause     => rfl
  | token kind text n =>
    have hkind : kind ≠ .newline := by simpa [isNewline] using h
    rw [asLineFeed, if_neg hkind]

/-- A piece that is no line break is the same piece where the lines behind it are ended in other ways. -/
theorem Piece.rewritten {piece rest rest' : List Char} {lexeme : Lexeme} (h : Piece piece rest lexeme)
    (hline : lexeme.isNewline = false) (hrest' : Rewritten rest rest') : Piece piece rest' lexeme := by
  cases h with
  | lineFeed                      => cases hline
  | carriageReturnLineFeed        => cases hline
  | carriageReturn                => cases hline
  | punctuation c kind _ hc hkind => exact .punctuation c kind _ hc hkind
  | identifier _ _ hname hrest    => exact .identifier _ _ hname (hrest'.forall_head? (by decide) hrest)
  | number _ _ hne hdigits hrest  => exact .number _ _ hne hdigits (hrest'.forall_head? (by decide) hrest)
  | closedLiteral quote text _ hquote htext => exact .closedLiteral quote text _ hquote htext
  | cutLiteral quote text _ hquote htext hrest =>
    exact .cutLiteral quote text _ hquote htext (hrest'.exists_isLineBreak hrest)
  | unterminatedLiteral quote text hquote htext =>
    cases hrest'
    exact .unterminatedLiteral quote text hquote htext
  | unexpectedCharacter c _ hc => exact .unexpectedCharacter c _ hc

/-- Where a text has a line feed, the other has a line break. -/
theorem Rewritten.exists_piece {rest cs' : List Char} (h : Rewritten ('\n' :: rest) cs') :
    ∃ piece' rest' n, cs' = piece' ++ rest' ∧ Piece piece' rest' (.token .newline ['\n'] n) ∧ Rewritten rest rest' := by
  cases h with
  | character hc                 => cases hc
  | lineFeed h                   => exact ⟨['\n'], _, 1, rfl, .lineFeed _, h⟩
  | carriageReturnLineFeed h     => exact ⟨['\r', '\n'], _, 2, rfl, .carriageReturnLineFeed _, h⟩
  | carriageReturn h hnext       => exact ⟨['\r'], _, 1, rfl, .carriageReturn _ hnext, h⟩

/-- **The pieces of a text do not depend on how its lines are ended**, but for the length of its line breaks. -/
theorem Rewritten.spells {cs cs' : List Char} {lexemes : List Lexeme} (h : Rewritten cs cs') (hcs : Spells cs lexemes) :
    ∃ lexemes', Spells cs' lexemes' ∧ lexemes'.map Lexeme.asLineFeed = lexemes := by
  obtain ⟨pieces, hsplit, rfl⟩ := hcs
  induction hsplit generalizing cs' with
  | nil =>
    cases h
    exact ⟨[], .nil, rfl⟩
  | @cons piece rest lexeme pieces hpiece hrest ih =>
    cases hline : lexeme.isNewline with
    | false =>
      obtain ⟨rest', rfl, hrest'⟩ := h.append (hpiece.forall_isLineBreak hline)
      obtain ⟨lexemes', hspells, hmap⟩ := ih hrest'
      refine ⟨lexeme :: lexemes', .cons (hpiece.rewritten hline hrest') hspells, ?_⟩
      rw [List.map_cons, Lexeme.asLineFeed_of_isNewline hline, hmap]
      rfl
    | true =>
      rcases hpiece.newline_cases hline with ⟨rfl, rfl⟩ | ⟨rfl, -⟩ | ⟨rfl, -⟩
      · obtain ⟨piece', rest', n, rfl, hpiece', hrest'⟩ := h.exists_piece
        obtain ⟨lexemes', hspells, hmap⟩ := ih hrest'
        refine ⟨.token .newline ['\n'] n :: lexemes', .cons hpiece' hspells, ?_⟩
        rw [List.map_cons, hmap]
        rfl
      -- a text that is rewritten has no carriage return
      · cases h with
        | character hc => cases hc
      · cases h with
        | character hc => cases hc

/-! ## Tokens -/

/-- A line break as if it were a line feed. -/
def Token.asLineFeed (t : Token) : Token := { t with byteLength := if t.kind = .newline then 1 else t.byteLength }

theorem tokensOf_asLineFeed : ∀ (lexemes : List Lexeme) (p : Position),
    tokensOf p (lexemes.map Lexeme.asLineFeed) = (tokensOf p lexemes).map (·.map Token.asLineFeed)
  | [],                            _ => rfl
  | .failure cause :: _,           _ => rfl
  | .token kind text n :: lexemes, p => by
    rw [List.map_cons, Lexeme.asLineFeed, tokensOf, tokensOf, tokensOf_asLineFeed lexemes (p.after kind)]
    cases tokensOf (p.after kind) lexemes <;> rfl

/-- Nothing that a line break does depends on its length. -/
theorem advance_asLineFeed (settings : Settings) (state : State) (t : Token) :
    state.advance settings t.asLineFeed = state.advance settings t := by
  obtain ⟨kind, text, n, p⟩ := t
  by_cases hkind : kind = .newline
  · subst hkind
    cases state with
    | reference slot seen => cases seen <;> rfl
    | _                   => rfl
  · rw [Token.asLineFeed, if_neg hkind]

theorem ofLexemes_asLineFeed (settings : Settings) : ∀ (lexemes : List Lexeme) (p : Position) (state : State),
    Account.ofLexemes settings p (lexemes.map Lexeme.asLineFeed) state = Account.ofLexemes settings p lexemes state
  | [],                            _, _     => rfl
  | .failure cause :: _,           _, _     => rfl
  | .token kind text n :: lexemes, p, state => by
    have hmove := advance_asLineFeed settings state ⟨kind, String.ofList text, n, p⟩
    rw [List.map_cons, Lexeme.asLineFeed, Account.ofLexemes, Account.ofLexemes]
    rw [Token.asLineFeed] at hmove
    rw [hmove]
    exact congrArg _ (funext fun s => ofLexemes_asLineFeed settings lexemes (p.after kind) s)

/-! ## Whole texts -/

/-- **How the lines of a text are ended makes no difference.**  Its tokens are the same, or its first error is, but for
the length of its line breaks, which are line feeds in the one text; and it is read as the same program, with the same
reports, or with the same error. -/
theorem tokenize_rewritten {t t' : String} (h : Rewritten t.toList t'.toList) :
    (tokenize t').map (·.map Token.asLineFeed) = tokenize t ∧
    ∀ settings, (parseText settings t').result = (parseText settings t).result ∧
      (parseText settings t').notes = (parseText settings t).notes := by
  obtain ⟨lexemes, hspells⟩ := exists_spells (withoutMark t.toList)
  obtain ⟨lexemes', hspells', rfl⟩ := h.withoutMark.spells hspells
  refine ⟨?_, fun settings => ?_⟩
  · rw [tokenize_eq_tokensOf hspells', tokenize_eq_tokensOf hspells, tokensOf_asLineFeed]
  · have haccount := account_parseText settings hspells .statement
    rw [ofLexemes_asLineFeed, ← account_parseText settings hspells' .statement] at haccount
    exact ⟨congrArg (Account.result .empty) haccount.symm, congrArg Account.notes haccount.symm⟩

/-- Two line breaks in a row and one that cuts a literal, in front of a caret and without it. -/
theorem tokenize_rewritten_cut : Rewritten "a:\n\n'x\n".toList "a:\r\r\n'x\r".toList ∧
    (tokenize "a:\r\r\n'x\r").map (·.map Token.asLineFeed) = tokenize "a:\n\n'x\n" ∧
    (parseText {} "a:\r\r\n'x\r").result = .ok ⟨[.rule (.named "a")], .empty⟩ ∧
    (parseText {} "a:\r\r\n'x\r^").result = .error (.lex ⟨.unexpectedCharacter '^', ⟨3, 0⟩⟩) := by
  have hcaret : Rewritten ['^'] ['^'] := .character (by decide) .nil
  have hcut {cs cs' : List Char} (h : Rewritten cs cs') (hnext : cs'.head? ≠ some '\n') :
      Rewritten (['a', ':', '\n', '\n', '\'', 'x', '\n'] ++ cs)
        (['a', ':', '\r', '\r', '\n', '\'', 'x', '\r'] ++ cs') :=
    .character (by decide) (.character (by decide) (.carriageReturn (.carriageReturnLineFeed
      (.character (by decide) (.character (by decide) (.carriageReturn h hnext)))) nofun))
  have hrule : (parseText {} "a:\n\n'x\n").result = .ok ⟨[.rule (.named "a")], .empty⟩ := by cbv
  have herror : (parseText {} "a:\n\n'x\n^").result = .error (.lex ⟨.unexpectedCharacter '^', ⟨3, 0⟩⟩) := by cbv
  have h : Rewritten "a:\n\n'x\n".toList "a:\r\r\n'x\r".toList := hcut .nil (by decide)
  have h' : Rewritten "a:\n\n'x\n^".toList "a:\r\r\n'x\r^".toList := hcut hcaret (by decide)
  obtain ⟨htokens, hread⟩ := tokenize_rewritten h
  exact ⟨h, htokens, (hread {}).1.trans hrule, ((tokenize_rewritten h').2 {}).1.trans herror⟩

end RuleFile
