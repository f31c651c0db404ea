import Mathlib
import RuleFile.Proofs.LineEndings
import RuleFile.Proofs.SkippedLines
/-!
# Tokens written out

The tokens of a text can be written one after the other: a line break as a line feed, a literal between two of its
quotes, and any other token as its text.  No two that stood side by side run into one, and none is taken apart: what
ends a piece is the head of what follows it, and that is kept but for a carriage return, which is now a line feed
(`Piece.written`).  So the text that is written has the same tokens and is read as the same program
(`tokenize_written`), though it may be another text: literals that a line end had cut are closed, and all lines are
ended in one way.
-/
namespace RuleFile

open Grammar

/-! ## One token -/

/-- A token as it is written: a literal stands between two of its quotes. -/
def Token.written (t : Token) : String :=
  match t.kind with
  | .newline            => "\n"
  | .singleQuoteLiteral => "'" ++ t.text ++ "'"
  | .doubleQuoteLiteral => "\"" ++ t.text ++ "\""
  | _                   => t.text

/-- Tokens written one after the other. -/
def written (tokens : List Token) : String := String.join (tokens.map Token.written)

/-- A lexeme as its token is written. -/
def Lexeme.written : Lexeme → List Char
  | token .newline _ _               => ['\n']
  | token .singleQuoteLiteral text _ => '\'' :: (text ++ ['\''])
  | token .doubleQuoteLiteral text _ => '"' :: (text ++ ['"'])
  | token _ text _                   => text
  | failure _                        => []

theorem toList_written (kind : Token.Kind) (text : List Char) (n : Nat) (p : Position) :
    (Token.written ⟨kind, String.ofList text, n, p⟩).toList = (Lexeme.token kind text n).written := by
  cases kind <;> simp [Token.written, Lexeme.written]

theorem written_literal {quote : Char} (h : quote = '\'' ∨ quote = '"') (text : List Char) (n : Nat) :
    (Lexeme.token (literalKind quote) text n).written = quote :: (text ++ [quote]) := by
  rcases h with rfl | rfl <;> rfl

theorem written_punctuation {c : Char} {kind : Token.Kind} (h : Token.Kind.ofPunctuation? c = some kind) (n : Nat) :
    (Lexeme.token kind [c] n).written = [c] := by
  unfold Token.Kind.ofPunctuation? at h
  split at h <;> cases h <;> rfl

theorem isNewline_literal (quote : Char) (text : List Char) (n : Nat) :
    (Lexeme.token (literalKind quote) text n).isNewline = false := by
  unfold literalKind
  split <;> rfl

theorem toList_written_tokensAt : ∀ {lexemes : List Lexeme} (p : Position), (∀ l ∈ lexemes, l.isToken = true) →
    (written (tokensAt p lexemes)).toList = lexemes.flatMap Lexeme.written
  | [],                            _, _ => by simp [tokensAt, written]
  | .failure cause :: _,           _, h => by cases h _ List.mem_cons_self
  | .token kind text n :: lexemes, p, h => by
    have hrest : ∀ l ∈ lexemes, l.isToken = true := fun l hl => h l (List.mem_cons_of_mem _ hl)
    have hlater := toList_written_tokensAt (p.after kind) hrest
    rw [written, String.toList_join] at hlater ⊢
    rw [tokensAt, List.map_cons, List.flatMap_cons, List.flatMap_cons, hlater, toList_written]

/-! ## Pieces -/

/-- What stands behind a piece may begin in the same way, or with a line feed in the place of a carriage return. -/
def BeginsAlike (rest rest' : List Char) : Prop :=
  rest'.head? = rest.head? ∨ rest.head? = some '\r' ∧ rest'.head? = some '\n'

/-- A class of characters that no line break is in stops at the same place. -/
theorem BeginsAlike.forall_head? {rest rest' : List Char} (h : BeginsAlike rest rest') {accept : Char → Bool}
    (hbreak : accept '\n' = false) (hrest : ∀ d ∈ rest.head?, accept d = false) :
    ∀ d ∈ rest'.head?, accept d = false := by
  intro d hd
  rcases h with heq | ⟨-, heq⟩
  · exact hrest d (heq ▸ hd)
  · rw [heq] at hd
    cases hd
    exact hbreak

theorem beginsAlike_append {piece : List Char} (hne : piece ≠ []) (later later' : List Char) :
    BeginsAlike (piece ++ later) (piece ++ later') := by
  obtain ⟨c, cs, rfl⟩ := List.exists_cons_of_ne_nil hne
  exact .inl rfl

/-- **A token that is written is the same piece again**, a line break as a line feed. -/
theorem Piece.written {piece rest rest' : List Char} {lexeme : Lexeme} (h : Piece piece rest lexeme)
    (htoken : lexeme.isToken = true) (hrest' : BeginsAlike rest rest') :
    Piece lexeme.written rest' lexeme.asLineFeed := by
  cases h with
  | lineFeed               => exact .lineFeed _
  | carriageReturnLineFeed => exact .lineFeed _
  | carriageReturn         => exact .lineFeed _
  | punctuation c kind _ hc hkind =>
    rw [written_punctuation hc, Lexeme.asLineFeed, if_neg hkind]
    exact .punctuation c kind _ hc hkind
  | identifier _ _ hname hrest =>
    exact .identifier _ _ hname (hrest'.forall_head? (by decide) hrest)
  | number _ _ hne hdigits hrest =>
    exact .number _ _ hne hdigits (hrest'.forall_head? (by decide) hrest)
  | closedLiteral quote text _ hquote htext =>
    rw [written_literal hquote, Lexeme.asLineFeed_of_isNewline (isNewline_literal quote _ _)]
    exact .closedLiteral quote text _ hquote htext
  -- the literal is closed now, whatever cut it
  | cutLiteral quote text _ hquote htext =>
    rw [written_literal hquote, Lexeme.asLineFeed_of_isNewline (isNewline_literal quote _ _)]
    exact .closedLiteral quote text _ hquote htext
  | unterminatedLiteral    => cases htoken
  | unexpectedCharacter    => cases htoken

/-- What is written for a piece begins as the piece does. -/
theorem Piece.beginsAlike {piece rest : List Char} {lexeme : Lexeme} (h : Piece piece rest lexeme)
    (htoken : lexeme.isToken = true) (later later' : List Char) :
    BeginsAlike (piece ++ later) (lexeme.written ++ later') := by
  cases h with
  | lineFeed               => exact .inl rfl
  | carriageReturnLineFeed => exact .inr ⟨rfl, rfl⟩
  | carriageReturn         => exact .inr ⟨rfl, rfl⟩
  | punctuation c kind _ hc hkind =>
    rw [written_punctuation hc]
    exact .inl rfl
  | identifier _ _ hname   => exact beginsAlike_append (Piece.identifier piece rest hname ‹_›).ne_nil later later'
  | number _ _ hne         => exact beginsAlike_append hne later later'
  | closedLiteral quote text _ hquote htext =>
    rw [written_literal hquote]
    exact .inl rfl
  | cutLiteral quote text _ hquote htext =>
    rw [written_literal hquote]
    exact .inl rfl
  | unterminatedLiteral    => cases htoken
  | unexpectedCharacter    => cases htoken

/-! ## Whole texts -/

/-- **The pieces of a text of tokens, written one after the other, make a text of the same pieces.** -/
theorem Spells.written {cs : List Char} {lexemes : List Lexeme} (h : Spells cs lexemes)
    (htokens : ∀ l ∈ lexemes, l.isToken = true) :
    Spells (lexemes.flatMap Lexeme.written) (lexemes.map Lexeme.asLineFeed) := by
  obtain ⟨pieces, hsplit, rfl⟩ := h
  suffices h : BeginsAlike cs ((pieces.map Prod.snd).flatMap Lexeme.written) ∧
      Spells ((pieces.map Prod.snd).flatMap Lexeme.written) ((pieces.map Prod.snd).map Lexeme.asLineFeed) from h.2
  induction hsplit with
  | nil => exact ⟨.inl rfl, .nil⟩
  | @cons piece rest lexeme pieces hpiece hrest ih =>
    obtain ⟨htoken, hlater⟩ := List.forall_mem_cons.1 htokens
    obtain ⟨halike, hspells⟩ := ih hlater
    exact ⟨hpiece.beginsAlike htoken _ _, .cons (hpiece.written htoken halike) hspells⟩

theorem Spells.head?_written_ne_mark {cs : List Char} {lexemes : List Lexeme} (h : Spells cs lexemes)
    (htokens : ∀ l ∈ lexemes, l.isToken = true) : (lexemes.flatMap Lexeme.written).head? ≠ some '\ufeff' := by
  cases lexemes with
  | nil => nofun
  | cons lexeme later =>
    cases lexeme with
    | failure cause     => cases htokens _ List.mem_cons_self
    | token kind text n => exact (h.written htokens).head?_ne_mark

/-- **What is written of the tokens of a text has these tokens again**, and is read as the text is: as the same program,
with the same reports, or with the same error.  Only the length of a line break may differ, which is a line feed now. -/
theorem tokenize_written {text : String} {tokens : List Token} (h : tokenize text = .ok tokens) :
    tokenize (written tokens) = .ok (tokens.map Token.asLineFeed) ∧
    ∀ settings, (parseText settings (written tokens)).result = (parseText settings text).result ∧
      (parseText settings (written tokens)).notes = (parseText settings text).notes := by
  obtain ⟨lexemes, hspells⟩ := exists_spells (withoutMark text.toList)
  have htokenize := tokenize_eq_tokensOf hspells
  obtain ⟨htokens, rfl⟩ := tokensOf_ok (htokenize.symm.trans h)
  have hwritten : Spells (withoutMark (written (tokensAt .start lexemes)).toList) (lexemes.map Lexeme.asLineFeed) := by
    rw [toList_written_tokensAt .start htokens]
    exact (hspells.written htokens).of_head? (hspells.head?_written_ne_mark htokens)
  refine ⟨?_, fun settings => ?_⟩
  · rw [tokenize_eq_tokensOf hwritten, tokensOf_asLineFeed, ← htokenize, h]
    rfl
  · have haccount := account_parseText settings hwritten .statement
    rw [ofLexemes_asLineFeed, ← account_parseText settings hspells .statement] at haccount
    exact ⟨congrArg (Account.result .empty) haccount, congrArg Account.notes haccount⟩

/-- The tokens of a text with a byte order mark in front of it and one in a literal, with a literal that is cut behind a
quote of the other kind, and with lines that are ended in two ways. -/
def cutTokens : List Token :=
  [⟨.identifier, "a.b", 3, ⟨0, 0⟩⟩, ⟨.colon, ":", 1, ⟨0, 1⟩⟩, ⟨.newline, "\n", 1, ⟨0, 2⟩⟩, ⟨.newline, "\n", 2, ⟨1, 0⟩⟩,
    ⟨.singleQuoteLiteral, "x\"", 3, ⟨2, 0⟩⟩, ⟨.newline, "\n", 1, ⟨2, 1⟩⟩, ⟨.doubleQuoteLiteral, "\ufeff", 4, ⟨3, 0⟩⟩,
    ⟨.number, "12", 2, ⟨3, 1⟩⟩, ⟨.period, ".", 1, ⟨3, 2⟩⟩, ⟨.identifier, "c", 1, ⟨3, 3⟩⟩]

/-- What is written of them has no carriage return, and closes the literal. -/
theorem tokenize_written_cut :
    tokenize "\ufeffa.b:\r\r\n'x\"\r\"\ufeff\"12.c" = .ok cutTokens ∧
    written cutTokens = "a.b:\n\n'x\"'\n\"\ufeff\"12.c" ∧
    tokenize "a.b:\n\n'x\"'\n\"\ufeff\"12.c" = .ok (cutTokens.map Token.asLineFeed) ∧
    (parseText {} "a.b:\n\n'x\"'\n\"\ufeff\"12.c").result = .ok (Program.empty.addRule (.named "a.b")) := by
  have htokens : tokenize "\ufeffa.b:\r\r\n'x\"\r\"\ufeff\"12.c" = .ok cutTokens := by cbv
  have hwritten : written cutTokens = "a.b:\n\n'x\"'\n\"\ufeff\"12.c" := by cbv
  have hrule : (parseText {} "\ufeffa.b:\r\r\n'x\"\r\"\ufeff\"12.c").result =
      .ok (Program.empty.addRule (.named "a.b")) := by cbv
  obtain ⟨hagain, hread⟩ := tokenize_written htokens
  rw [hwritten] at hagain hread
  exact ⟨htokens, hwritten, hagain, (hread {}).1.trans hrule⟩

end RuleFile
