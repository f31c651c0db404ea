import RuleFile.Proofs.Streaming
/-!
# Cutting a text behind a line break

No piece of a text goes on behind a line feed, so the pieces of a text that ends with one stay the same whatever is
written behind it (`Spells.append`).  The next piece then stands at the start of a row, whose number is that of the line
breaks in front of it (`placeBehind_of_spells`).
-/
namespace RuleFile

/-! ## Line breaks of a text -/

/-- The line breaks of a text; a line feed right after a carriage return belongs to it. -/
def lineBreaks : List Char → Nat
  | []                 => 0
  | '\r' :: '\n' :: cs => lineBreaks cs + 1
  | c :: cs            => lineBreaks cs + if isLineBreak c then 1 else 0

theorem lineBreaks_cons {c : Char} (cs : List Char) (h : isLineBreak c = false) :
    lineBreaks (c :: cs) = lineBreaks cs := by
  have hr : c ≠ '\r' := by rintro rfl; cases h
  rw [lineBreaks, h]
  · rfl
  · exact fun _ hc => absurd hc hr

theorem lineBreaks_append {piece : List Char} (rest : List Char) (h : ∀ c ∈ piece, isLineBreak c = false) :
    lineBreaks (piece ++ rest) = lineBreaks rest := by
  induction piece with
  | nil          => rfl
  | cons c cs ih =>
    rw [List.cons_append, lineBreaks_cons _ (h c List.mem_cons_self)]
    exact ih fun d hd => h d (List.mem_cons_of_mem c hd)

/-- The line breaks of two texts add up, unless the two make one line break where they meet. -/
theorem lineBreaks_append_of_last {cs rest : List Char} (h : cs.getLast? = some '\r' → rest.head? ≠ some '\n') :
    lineBreaks (cs ++ rest) = lineBreaks cs + lineBreaks rest := by
  induction cs using lineBreaks.induct with
  | case1          => simp [lineBreaks]
  | case2 cs ih    =>
    have hcs : cs.getLast? = some '\r' → rest.head? ≠ some '\n' := by
      intro hlast
      exact h (by simp [List.getLast?_cons, hlast])
    rw [List.cons_append, List.cons_append, lineBreaks, lineBreaks, ih hcs]
    omega
  | case3 c cs hne ih =>
    have hcs : cs.getLast? = some '\r' → rest.head? ≠ some '\n' := by
      intro hlast
      exact h (by simp [List.getLast?_cons, hlast])
    have hjoin : ∀ ds, c = '\r' → cs ++ rest = '\n' :: ds → False := by
      rintro ds rfl heq
      cases cs with
      | nil      => exact h rfl (by rw [show rest = '\n' :: ds from heq]; rfl)
      | cons d cs =>
        obtain ⟨rfl, -⟩ := List.cons.inj heq
        exact hne cs rfl rfl
    rw [List.cons_append, lineBreaks, lineBreaks, ih hcs]
    · omega
    · exact hne
    · exact hjoin

/-! ## Pieces and line breaks -/

theorem isLineBreak_of_isNameCharacter {c : Char} (h : isNameCharacter c = true) : isLineBreak c = false := by
  simp only [isNameCharacter, Bool.or_eq_true, beq_iff_eq] at h
  rcases h with h | rfl
  · simp [isLineBreak, ne_of_isAlphabetic h]
  · rfl

theorem isLineBreak_of_isDigit {c : Char} (h : c.isDigit = true) : isLineBreak c = false := by
  have hn : c ≠ '\n' := by rintro rfl; cases h
  have hr : c ≠ '\r' := by rintro rfl; cases h
  simp [isLineBreak, hn, hr]

theorem isLineBreak_of_isLiteralCharacter {quote c : Char} (h : isLiteralCharacter quote c = true) :
    isLineBreak c = false := by
  simp only [isLiteralCharacter, Bool.and_eq_true, Bool.not_eq_true'] at h
  exact h.2

theorem isLineBreak_of_quote {quote : Char} (h : quote = '\'' ∨ quote = '"') : isLineBreak quote = false := by
  rcases h with rfl | rfl <;> rfl

theorem isLineBreak_of_ofPunctuation? {c : Char} {kind : Token.Kind} (h : Token.Kind.ofPunctuation? c = some kind)
    (hkind : kind ≠ .newline) : isLineBreak c = false := by
  have hr : c ≠ '\r' := by rintro rfl; cases h
  have hn : c ≠ '\n' := by
    rintro rfl
    cases h
    exact hkind rfl
  simp [isLineBreak, hn, hr]

theorem isLineBreak_of_beginsToken {c : Char} (h : beginsToken c = false) : isLineBreak c = false := by
  have hn : c ≠ '\n' := by rintro rfl; cases h
  have hr : c ≠ '\r' := by rintro rfl; cases h
  simp [isLineBreak, hn, hr]

def Lexeme.isNewline : Lexeme → Bool
  | token kind _ _ => kind == .newline
  | failure _      => false

/-- A piece is a line break, or has none in it. -/
theorem Piece.forall_isLineBreak {piece rest : List Char} {lexeme : Lexeme} (h : Piece piece rest lexeme)
    (hline : lexeme.isNewline = false) : ∀ c ∈ piece, isLineBreak c = false := by
  cases h with
  | lineFeed               => cases hline
  | carriageReturnLineFeed => cases hline
  | carriageReturn         => cases hline
  | punctuation c kind _ hc hkind =>
    intro d hd
    rw [List.mem_singleton.1 hd]
    exact isLineBreak_of_ofPunctuation? hc hkind
  | identifier _ _ hname =>
    exact fun d hd => isLineBreak_of_isNameCharacter (forall_mem_of_isName hname d hd)
  | number _ _ hne hdigits => exact fun d hd => isLineBreak_of_isDigit (hdigits d hd)
  | closedLiteral quote text _ hquote htext =>
    have hq := isLineBreak_of_quote hquote
    have ht : ∀ d ∈ text, isLineBreak d = false := fun d hd => isLineBreak_of_isLiteralCharacter (htext d hd)
    simpa [hq] using fun d hd => hd.elim (ht d) (fun h => h ▸ hq)
  | cutLiteral quote text _ hquote htext =>
    exact List.forall_mem_cons.2 ⟨isLineBreak_of_quote hquote,
      fun d hd => isLineBreak_of_isLiteralCharacter (htext d hd)⟩
  | unterminatedLiteral quote text hquote htext =>
    exact List.forall_mem_cons.2 ⟨isLineBreak_of_quote hquote,
      fun d hd => isLineBreak_of_isLiteralCharacter (htext d hd)⟩
  | unexpectedCharacter c _ hc =>
    intro d hd
    rw [List.mem_singleton.1 hd]
    exact isLineBreak_of_beginsToken hc

/-- The pieces that are line breaks. -/
theorem Piece.newline_cases {piece rest : List Char} {lexeme : Lexeme} (h : Piece piece rest lexeme)
    (hline : lexeme.isNewline = true) :
    (piece = ['\n'] ∧ lexeme = .token .newline ['\n'] 1) ∨
    (piece = ['\r', '\n'] ∧ lexeme = .token .newline ['\n'] 2) ∨
    (piece = ['\r'] ∧ lexeme = .token .newline ['\n'] 1 ∧ rest.head? ≠ some '\n') := by
  cases h with
  | lineFeed                      => exact .inl ⟨rfl, rfl⟩
  | carriageReturnLineFeed        => exact .inr (.inl ⟨rfl, rfl⟩)
  | carriageReturn _ hrest        => exact .inr (.inr ⟨rfl, rfl, hrest⟩)
  | punctuation c kind _ hc hkind => exact absurd (by simpa [Lexeme.isNewline] using hline) hkind
  | closedLiteral quote           => unfold literalKind at hline; split at hline <;> cases hline
  | cutLiteral quote              => unfold literalKind at hline; split at hline <;> cases hline
  | _                             => cases hline

/-- Only the head of what follows a piece decides where it ends. -/
theorem Piece.of_head? {piece rest rest' : List Char} {lexeme : Lexeme} (h : Piece piece rest lexeme) (hne : rest ≠ [])
    (hhead : rest'.head? = rest.head?) : Piece piece rest' lexeme := by
  cases h with
  | lineFeed                                        => exact .lineFeed _
  | carriageReturnLineFeed                          => exact .carriageReturnLineFeed _
  | carriageReturn _ hrest                          => exact .carriageReturn _ (hhead ▸ hrest)
  | punctuation c kind _ hc hkind                   => exact .punctuation c kind _ hc hkind
  | identifier _ _ hname hrest                      => exact .identifier _ _ hname (hhead ▸ hrest)
  | number _ _ hd hdigits hrest                     => exact .number _ _ hd hdigits (hhead ▸ hrest)
  | closedLiteral quote text _ hquote htext         => exact .closedLiteral quote text _ hquote htext
  | cutLiteral quote text _ hquote htext hrest      => exact .cutLiteral quote text _ hquote htext (hhead ▸ hrest)
  | unterminatedLiteral                             => exact absurd rfl hne
  | unexpectedCharacter c _ hc                      => exact .unexpectedCharacter c _ hc

theorem Piece.extend {piece rest : List Char} {lexeme : Lexeme} (h : Piece piece rest lexeme) (hne : rest ≠ [])
    (later : List Char) : Piece piece (rest ++ later) lexeme := by
  obtain ⟨c, cs, rfl⟩ := List.exists_cons_of_ne_nil hne
  exact h.of_head? hne rfl

/-- A literal that no quote closes, and what follows it: more characters of its line would belong to it. -/
inductive OpenLiteral : List Char → List Char → Lexeme → Prop where
  | cut {quote : Char} {text rest : List Char} (hquote : quote = '\'' ∨ quote = '"')
      (htext : ∀ d ∈ text, isLiteralCharacter quote d = true) (hrest : ∃ d ∈ rest.head?, isLineBreak d = true) :
      OpenLiteral (quote :: text) rest (.token (literalKind quote) text (1 + utf8Length text))
  | unterminated {quote : Char} {text : List Char} (hquote : quote = '\'' ∨ quote = '"')
      (htext : ∀ d ∈ text, isLiteralCharacter quote d = true) :
      OpenLiteral (quote :: text) [] (.failure (.unterminatedLiteral quote))

/-- A character that goes on with no name and no number may follow any piece but a literal that is open, and but a line
feed a carriage return. -/
theorem Piece.before_or_open {piece rest : List Char} {lexeme : Lexeme} (h : Piece piece rest lexeme) {c : Char}
    (hname : isNameCharacter c = false) (hdigit : c.isDigit = false) (hfeed : ¬ (piece = ['\r'] ∧ c = '\n'))
    (later : List Char) : Piece piece (c :: later) lexeme ∨ OpenLiteral piece rest lexeme := by
  have hstop {accept : Char → Bool} (hc : accept c = false) : ∀ d ∈ (c :: later).head?, accept d = false := by
    rintro d ⟨⟩
    exact hc
  cases h with
  | lineFeed                                        => exact .inl (.lineFeed _)
  | carriageReturnLineFeed                          => exact .inl (.carriageReturnLineFeed _)
  | carriageReturn => exact .inl (.carriageReturn _ fun hc => hfeed ⟨rfl, Option.some.inj hc⟩)
  | punctuation d kind _ hd hkind                   => exact .inl (.punctuation d kind _ hd hkind)
  | identifier _ _ hpiece                           => exact .inl (.identifier _ _ hpiece (hstop hname))
  | number _ _ hne hdigits                          => exact .inl (.number _ _ hne hdigits (hstop hdigit))
  | closedLiteral quote text _ hquote htext         => exact .inl (.closedLiteral quote text _ hquote htext)
  | cutLiteral quote text _ hquote htext hrest      => exact .inr (.cut hquote htext hrest)
  | unterminatedLiteral quote text hquote htext     => exact .inr (.unterminated hquote htext)
  | unexpectedCharacter d _ hd                      => exact .inl (.unexpectedCharacter d _ hd)

/-- A line feed ends its piece, whatever follows. -/
theorem Piece.of_lineFeed {piece rest : List Char} {lexeme : Lexeme} (h : Piece piece rest lexeme)
    (hmem : '\n' ∈ piece) (later : List Char) : Piece piece later lexeme ∧ lexeme.isNewline = true := by
  have hline : lexeme.isNewline = true := by
    cases hl : lexeme.isNewline with
    | true  => rfl
    | false => cases h.forall_isLineBreak hl '\n' hmem
  refine ⟨?_, hline⟩
  rcases h.newline_cases hline with ⟨rfl, rfl⟩ | ⟨rfl, rfl⟩ | ⟨rfl, -, -⟩
  · exact .lineFeed _
  · exact .carriageReturnLineFeed _
  · cases List.mem_singleton.1 hmem

/-- A piece counts as many line breaks as its token. -/
theorem Piece.lineBreaks_eq {piece rest : List Char} {lexeme : Lexeme} (h : Piece piece rest lexeme) :
    lineBreaks piece = if lexeme.isNewline then 1 else 0 := by
  cases hl : lexeme.isNewline with
  | false =>
    have hnone := lineBreaks_append [] (h.forall_isLineBreak hl)
    rwa [List.append_nil] at hnone
  | true  => rcases h.newline_cases hl with ⟨rfl, -⟩ | ⟨rfl, -⟩ | ⟨rfl, -, -⟩ <;> rfl

/-- No line break is cut in two between a piece and what follows it. -/
theorem Piece.head?_ne_of_last {piece rest : List Char} {lexeme : Lexeme} (h : Piece piece rest lexeme)
    (hlast : piece.getLast? = some '\r') : rest.head? ≠ some '\n' := by
  have hmem : '\r' ∈ piece := List.mem_of_getLast? hlast
  have hline : lexeme.isNewline = true := by
    cases hl : lexeme.isNewline with
    | true  => rfl
    | false => cases h.forall_isLineBreak hl '\r' hmem
  rcases h.newline_cases hline with ⟨rfl, -⟩ | ⟨rfl, -⟩ | ⟨-, -, hrest⟩
  · cases hlast
  · cases hlast
  · exact hrest

theorem lineBreaks_of_piece {piece rest : List Char} {lexeme : Lexeme} (h : Piece piece rest lexeme) :
    lineBreaks (piece ++ rest) = lineBreaks rest + if lexeme.isNewline then 1 else 0 := by
  rw [lineBreaks_append_of_last h.head?_ne_of_last, h.lineBreaks_eq, Nat.add_comm]

/-! ## Whole texts -/

/-- **The pieces of a text that ends with a line feed do not depend on what is written behind it.** -/
theorem Spells.append {cs later : List Char} {lexemes more : List Lexeme} (h : Spells cs lexemes)
    (hend : cs.getLast? = some '\n') (hlater : Spells later more) : Spells (cs ++ later) (lexemes ++ more) := by
  obtain ⟨pieces, hsplit, rfl⟩ := h
  induction hsplit with
  | nil => cases hend
  | @cons piece rest lexeme pieces hpiece hrest ih =>
    rw [List.append_assoc, List.map_cons, List.cons_append]
    by_cases hne : rest = []
    · subst hne
      obtain rfl : pieces = [] := Split.nil.unique hrest
      rw [List.append_nil] at hend
      exact .cons (hpiece.of_lineFeed (List.mem_of_getLast? hend) later).1 hlater
    · rw [List.getLast?_append_of_ne_nil _ hne] at hend
      exact .cons (hpiece.extend hne later) (ih hend)

theorem Spells.exists_newline {cs : List Char} {lexemes : List Lexeme} (h : Spells cs lexemes)
    (hend : cs.getLast? = some '\n') : ∃ front text n, lexemes = front ++ [.token .newline text n] := by
  obtain ⟨pieces, hsplit, rfl⟩ := h
  induction hsplit with
  | nil => cases hend
  | @cons piece rest lexeme pieces hpiece hrest ih =>
    by_cases hne : rest = []
    · subst hne
      obtain rfl : pieces = [] := Split.nil.unique hrest
      rw [List.append_nil] at hend
      have hline := (hpiece.of_lineFeed (List.mem_of_getLast? hend) []).2
      cases lexeme with
      | failure cause     => cases hline
      | token kind text n =>
        obtain rfl : kind = .newline := by simpa [Lexeme.isNewline] using hline
        exact ⟨[], text, n, rfl⟩
    · rw [List.getLast?_append_of_ne_nil _ hne] at hend
      obtain ⟨front, text, n, heq⟩ := ih hend
      exact ⟨lexeme :: front, text, n, congrArg (lexeme :: ·) heq⟩

/-! ## Rows -/

theorem row_past (p : Position) (lexeme : Lexeme) :
    (p.past lexeme).row = p.row + if lexeme.isNewline then 1 else 0 := by
  cases lexeme with
  | failure cause     => rfl
  | token kind text n => by_cases hk : kind = .newline <;> simp [Position.past, Position.after, Lexeme.isNewline, hk,
      Position.nextRow, Position.nextColumn]

/-- **The rows of a text are its line breaks.** -/
theorem row_placeBehind {cs : List Char} {lexemes : List Lexeme} (h : Spells cs lexemes) (p : Position) :
    (placeBehind p lexemes).row = p.row + lineBreaks cs := by
  obtain ⟨pieces, hsplit, rfl⟩ := h
  induction hsplit generalizing p with
  | nil => rfl
  | @cons piece rest lexeme pieces hpiece hrest ih =>
    show (placeBehind (p.past lexeme) (pieces.map Prod.snd)).row = _
    rw [ih, row_past, lineBreaks_of_piece hpiece]
    omega

theorem placeBehind_of_spells {cs : List Char} {lexemes : List Lexeme} (h : Spells cs lexemes)
    (hend : cs.getLast? = some '\n') (p : Position) : placeBehind p lexemes = ⟨p.row + lineBreaks cs, 0⟩ := by
  have hrow := row_placeBehind h p
  obtain ⟨front, text, n, rfl⟩ := h.exists_newline hend
  rw [placeBehind_append] at hrow ⊢
  rw [← hrow]
  rfl

end RuleFile
