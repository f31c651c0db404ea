import RuleFile.TokenStream
/-!
# The pieces of a text

`Piece piece rest lexeme` says, rule by rule, when characters that stand in front of `rest` are one piece of a text, and
what they are: a token or an error.  A `Split` cuts a whole text into such pieces.  Every text has exactly one
(`exists_split`, `Split.unique`), and `Lexeme.first` cuts off its first piece (`piece_first`, `Piece.first_eq`), so a
scanner hands out the pieces of its text in their order, each at its place (`take_of_split`).
-/
namespace RuleFile

/-! ## One piece -/

/-- The names that are one identifier: a letter, then letters and points. -/
def isName : List Char → Bool
  | []      => false
  | c :: cs => Text.isAlphabetic c && cs.all isNameCharacter

def isLiteralCharacter (quote c : Char) : Bool := c != quote && !isLineBreak c

/-- The characters that begin a piece of their own kind: line breaks, punctuation, quotes, letters and digits. -/
def beginsToken (c : Char) : Bool :=
  c == '\r' || c == '\'' || c == '"' || (Token.Kind.ofPunctuation? c).isSome || Text.isAlphabetic c || c.isDigit

/-- **The pieces of a text**, each with what follows it.  An identifier or a number ends where no character could go on
with it; a literal ends with its quote, or in front of a line break. -/
inductive Piece : List Char → List Char → Lexeme → Prop where
  | lineFeed (rest : List Char) : Piece ['\n'] rest (.token .newline ['\n'] 1)
  | carriageReturnLineFeed (rest : List Char) : Piece ['\r', '\n'] rest (.token .newline ['\n'] 2)
  | carriageReturn (rest : List Char) (hrest : rest.head? ≠ some '\n') :
      Piece ['\r'] rest (.token .newline ['\n'] 1)
  | punctuation (c : Char) (kind : Token.Kind) (rest : List Char) (hc : Token.Kind.ofPunctuation? c = some kind)
      (hkind : kind ≠ .newline) : Piece [c] rest (.token kind [c] c.utf8Size)
  | identifier (name rest : List Char) (hname : isName name = true)
      (hrest : ∀ d ∈ rest.head?, isNameCharacter d = false) :
      Piece name rest (.token .identifier name (utf8Length name))
  | number (digits rest : List Char) (hne : digits ≠ []) (hdigits : ∀ d ∈ digits, d.isDigit = true)
      (hrest : ∀ d ∈ rest.head?, d.isDigit = false) :
      Piece digits rest (.token .number digits (utf8Length digits))
  | closedLiteral (quote : Char) (text rest : List Char) (hquote : quote = '\'' ∨ quote = '"')
      (htext : ∀ d ∈ text, isLiteralCharacter quote d = true) :
      Piece (quote :: (text ++ [quote])) rest (.token (literalKind quote) text (1 + utf8Length text))
  | cutLiteral (quote : Char) (text rest : List Char) (hquote : quote = '\'' ∨ quote = '"')
      (htext : ∀ d ∈ text, isLiteralCharacter quote d = true) (hrest : ∃ d ∈ rest.head?, isLineBreak d = true) :
      Piece (quote :: text) rest (.token (literalKind quote) text (1 + utf8Length text))
  | unterminatedLiteral (quote : Char) (text : List Char) (hquote : quote = '\'' ∨ quote = '"')
      (htext : ∀ d ∈ text, isLiteralCharacter quote d = true) :
      Piece (quote :: text) [] (.failure (.unterminatedLiteral quote))
  | unexpectedCharacter (c : Char) (rest : List Char) (hc : beginsToken c = false) :
      Piece [c] rest (.failure (.unexpectedCharacter c))

/-! ## Classes of characters

Letters start at `A`, behind all punctuation, quotes and digits. -/

theorem inRanges_of_lt {lo hi n : Nat} {rest : List (Nat × Nat)} (h : n < lo) :
    Text.inRanges ((lo, hi) :: rest) n = false := if_pos h

theorem isAlphabetic_of_lt {c : Char} (h : c.toNat < 0x41) : Text.isAlphabetic c = false := by
  unfold Text.isAlphabetic
  rw [if_pos (by omega)]
  exact inRanges_of_lt h

theorem toNat_lt_of_ofPunctuation? {c : Char} {kind : Token.Kind} (h : Token.Kind.ofPunctuation? c = some kind) :
    c.toNat < 0x41 := by
  unfold Token.Kind.ofPunctuation? at h
  split at h <;> first | decide | cases h

theorem ofPunctuation?_of_isAlphabetic {c : Char} (h : Text.isAlphabetic c = true) :
    Token.Kind.ofPunctuation? c = none := by
  cases hp : Token.Kind.ofPunctuation? c with
  | none      => rfl
  | some kind =>
    rw [isAlphabetic_of_lt (toNat_lt_of_ofPunctuation? hp)] at h
    cases h

theorem ne_of_isAlphabetic {c d : Char} (h : Text.isAlphabetic c = true) (hd : d.toNat < 0x41) : c ≠ d := by
  rintro rfl
  rw [isAlphabetic_of_lt hd] at h
  cases h

theorem isDigit_of_ofPunctuation? {c : Char} {kind : Token.Kind} (h : Token.Kind.ofPunctuation? c = some kind) :
    c.isDigit = false := by
  unfold Token.Kind.ofPunctuation? at h
  split at h <;> first | decide | cases h

theorem toNat_lt_of_isDigit {c : Char} (h : c.isDigit = true) : c.toNat < 0x41 := by
  simp only [Char.isDigit, Bool.and_eq_true, decide_eq_true_eq, UInt32.le_iff_toNat_le] at h
  have h2 : c.val.toNat ≤ 57 := h.2
  have : c.toNat = c.val.toNat := rfl
  omega

theorem forall_mem_of_isName {name : List Char} (h : isName name = true) : ∀ d ∈ name, isNameCharacter d = true := by
  cases name with
  | nil       => cases h
  | cons c cs =>
    simp only [isName, Bool.and_eq_true, List.all_eq_true] at h
    intro d hd
    rcases List.mem_cons.1 hd with rfl | hd
    · simp [isNameCharacter, h.1]
    · exact h.2 d hd

/-! ## Longest runs -/

theorem takeWhile_append_of_stop {p : Char → Bool} {cs rest : List Char} (hcs : ∀ d ∈ cs, p d = true)
    (hrest : ∀ d ∈ rest.head?, p d = false) : (cs ++ rest).takeWhile p = cs := by
  rw [List.takeWhile_append_of_pos hcs]
  cases rest with
  | nil       => simp
  | cons d ds => rw [List.takeWhile_cons_of_neg (by simp [hrest d rfl]), List.append_nil]

theorem dropWhile_append_of_stop {p : Char → Bool} {cs rest : List Char} (hcs : ∀ d ∈ cs, p d = true)
    (hrest : ∀ d ∈ rest.head?, p d = false) : (cs ++ rest).dropWhile p = rest := by
  rw [List.dropWhile_append_of_pos hcs]
  cases rest with
  | nil       => rfl
  | cons d ds => exact List.dropWhile_cons_of_neg (by simp [hrest d rfl])

theorem forall_mem_takeWhile (p : Char → Bool) (cs : List Char) : ∀ d ∈ cs.takeWhile p, p d = true := by
  intro d hd
  exact List.all_eq_true.1 List.all_takeWhile d hd

theorem forall_head?_dropWhile (p : Char → Bool) (cs : List Char) : ∀ d ∈ (cs.dropWhile p).head?, p d = false := by
  intro d hd
  have := List.head?_dropWhile_not p cs
  rw [Option.mem_def.1 hd] at this
  simpa using this

/-! ## The first piece -/

theorem literal_eq (quote : Char) (cs : List Char) : Lexeme.literal quote cs =
    match cs.dropWhile (isLiteralCharacter quote) with
    | []        => (.failure (.unterminatedLiteral quote), [])
    | c :: rest =>
      (.token (literalKind quote) (cs.takeWhile (isLiteralCharacter quote))
        (quote.utf8Size + utf8Length (cs.takeWhile (isLiteralCharacter quote))),
        if c = quote then rest else c :: rest) :=
  rfl

theorem isLiteralCharacter_self (quote : Char) : isLiteralCharacter quote quote = false := by
  simp [isLiteralCharacter]

theorem isLiteralCharacter_of_isLineBreak {quote d : Char} (h : isLineBreak d = true) :
    isLiteralCharacter quote d = false := by
  simp [isLiteralCharacter, h]

/-- A literal stops at the first character that may not stand in it: its quote is read with it, and a line break is
not. -/
theorem literal_stop {quote d : Char} {text : List Char} (rest : List Char)
    (htext : ∀ e ∈ text, isLiteralCharacter quote e = true) (hd : isLiteralCharacter quote d = false) :
    Lexeme.literal quote (text ++ d :: rest) =
      (.token (literalKind quote) text (quote.utf8Size + utf8Length text), if d = quote then rest else d :: rest) := by
  have hstop : ∀ e ∈ (d :: rest).head?, isLiteralCharacter quote e = false := by
    intro e he
    cases he
    exact hd
  rw [literal_eq, takeWhile_append_of_stop htext hstop, dropWhile_append_of_stop htext hstop]

theorem literal_unterminated {quote : Char} {text : List Char}
    (htext : ∀ d ∈ text, isLiteralCharacter quote d = true) :
    Lexeme.literal quote text = (.failure (.unterminatedLiteral quote), []) := by
  have hstop : ∀ d ∈ ([] : List Char).head?, isLiteralCharacter quote d = false := fun _ h => by cases h
  have hdrop := dropWhile_append_of_stop htext hstop
  rw [List.append_nil] at hdrop
  rw [literal_eq, hdrop]

theorem utf8Size_of_quote {quote : Char} (h : quote = '\'' ∨ quote = '"') : quote.utf8Size = 1 := by
  rcases h with rfl | rfl <;> rfl

theorem first_of_quote {quote : Char} (h : quote = '\'' ∨ quote = '"') (cs : List Char) :
    Lexeme.first quote cs = Lexeme.literal quote cs := by
  unfold Lexeme.first
  rw [if_neg (by rintro rfl; revert h; decide), if_pos h]

/-- **A piece in front of a rest is the first piece of the text they make.** -/
theorem Piece.first_eq {piece rest : List Char} {lexeme : Lexeme} (h : Piece piece rest lexeme) :
    ∃ c cs, piece ++ rest = c :: cs ∧ Lexeme.first c cs = (lexeme, rest) := by
  cases h with
  | lineFeed => exact ⟨_, _, rfl, rfl⟩
  | carriageReturnLineFeed => exact ⟨_, _, rfl, rfl⟩
  | carriageReturn _ hrest =>
    refine ⟨_, _, rfl, ?_⟩
    show Lexeme.lineBreak rest = _
    unfold Lexeme.lineBreak
    split
    · exact absurd rfl hrest
    · rfl
  | punctuation c kind _ hc hkind =>
    refine ⟨_, _, rfl, ?_⟩
    have hr : c ≠ '\r' := by rintro rfl; cases hc
    have hq : ¬ (c = '\'' ∨ c = '"') := by rintro (rfl | rfl) <;> cases hc
    unfold Lexeme.first
    rw [if_neg hr, if_neg hq, hc]
    rfl
  | identifier _ _ hname hrest =>
    obtain _ | ⟨c, cs⟩ := piece
    · cases hname
    obtain ⟨hc, hcs⟩ : Text.isAlphabetic c = true ∧ ∀ d ∈ cs, isNameCharacter d = true := by
      simpa [isName] using hname
    refine ⟨c, cs ++ rest, rfl, ?_⟩
    have hq : ¬ (c = '\'' ∨ c = '"') := by
      rintro (h | h) <;> exact ne_of_isAlphabetic hc (by decide) h
    unfold Lexeme.first
    rw [if_neg (ne_of_isAlphabetic hc (by decide)), if_neg hq, ofPunctuation?_of_isAlphabetic hc]
    simp only [hc, if_true, Lexeme.run, takeWhile_append_of_stop hcs hrest, dropWhile_append_of_stop hcs hrest]
  | number _ _ hne hdigits hrest =>
    obtain _ | ⟨c, cs⟩ := piece
    · exact absurd rfl hne
    have hc := hdigits c List.mem_cons_self
    have hcs : ∀ d ∈ cs, d.isDigit = true := fun d hd => hdigits d (List.mem_cons_of_mem c hd)
    refine ⟨c, cs ++ rest, rfl, ?_⟩
    have hr : c ≠ '\r' := by rintro rfl; cases hc
    have hq : ¬ (c = '\'' ∨ c = '"') := by rintro (rfl | rfl) <;> cases hc
    have hp : Token.Kind.ofPunctuation? c = none := by
      cases hp : Token.Kind.ofPunctuation? c with
      | none      => rfl
      | some kind => rw [isDigit_of_ofPunctuation? hp] at hc; cases hc
    have ha := isAlphabetic_of_lt (toNat_lt_of_isDigit hc)
    unfold Lexeme.first
    rw [if_neg hr, if_neg hq, hp]
    simp only [ha, hc, if_true, Bool.false_eq_true, if_false, Lexeme.run, takeWhile_append_of_stop hcs hrest,
      dropWhile_append_of_stop hcs hrest]
  | closedLiteral quote text _ hquote htext =>
    refine ⟨quote, text ++ quote :: rest, by simp, ?_⟩
    rw [first_of_quote hquote, literal_stop rest htext (isLiteralCharacter_self quote), if_pos rfl,
      utf8Size_of_quote hquote]
  | cutLiteral quote text _ hquote htext hrest =>
    obtain ⟨d, hd, hbreak⟩ := hrest
    obtain ⟨rest', rfl⟩ := List.head?_eq_some_iff.1 hd
    have hne : d ≠ quote := by
      rintro rfl
      rcases hquote with rfl | rfl <;> exact absurd hbreak (by decide)
    refine ⟨quote, text ++ d :: rest', rfl, ?_⟩
    rw [first_of_quote hquote, literal_stop rest' htext (isLiteralCharacter_of_isLineBreak hbreak), if_neg hne,
      utf8Size_of_quote hquote]
  | unterminatedLiteral quote text hquote htext =>
    refine ⟨quote, text, by simp, ?_⟩
    rw [first_of_quote hquote, literal_unterminated htext]
  | unexpectedCharacter c _ hc =>
    refine ⟨c, rest, rfl, ?_⟩
    simp only [beginsToken, Bool.or_eq_false_iff, beq_eq_false_iff_ne, Option.isSome_eq_false_iff,
      Option.isNone_iff_eq_none] at hc
    obtain ⟨⟨⟨⟨⟨hr, hs⟩, hd⟩, hp⟩, ha⟩, hn⟩ := hc
    unfold Lexeme.first
    rw [if_neg hr, if_neg (fun h => h.elim hs hd), hp]
    simp only [ha, hn, Bool.false_eq_true, if_false]

theorem piece_lineBreak (cs : List Char) :
    ∃ piece, piece ++ (Lexeme.lineBreak cs).2 = '\r' :: cs ∧
      Piece piece (Lexeme.lineBreak cs).2 (Lexeme.lineBreak cs).1 := by
  unfold Lexeme.lineBreak
  split
  · exact ⟨['\r', '\n'], rfl, .carriageReturnLineFeed _⟩
  · rename_i rest hne
    refine ⟨['\r'], rfl, .carriageReturn _ ?_⟩
    intro h
    obtain ⟨ds, hds⟩ := List.head?_eq_some_iff.1 h
    exact hne ds hds

theorem piece_literal {quote : Char} (hquote : quote = '\'' ∨ quote = '"') (cs : List Char) :
    ∃ piece, piece ++ (Lexeme.literal quote cs).2 = quote :: cs ∧
      Piece piece (Lexeme.literal quote cs).2 (Lexeme.literal quote cs).1 := by
  have htext := forall_mem_takeWhile (isLiteralCharacter quote) cs
  have hstop := forall_head?_dropWhile (isLiteralCharacter quote) cs
  have hcs := List.takeWhile_append_dropWhile (p := isLiteralCharacter quote) (l := cs)
  rw [literal_eq, utf8Size_of_quote hquote]
  generalize cs.takeWhile (isLiteralCharacter quote) = text at htext hcs ⊢
  generalize cs.dropWhile (isLiteralCharacter quote) = rest at hstop hcs ⊢
  subst hcs
  cases rest with
  | nil =>
    refine ⟨quote :: text, by simp, ?_⟩
    exact .unterminatedLiteral quote text hquote htext
  | cons d rest =>
    by_cases hd : d = quote
    · subst hd
      simp only [if_true]
      exact ⟨d :: (text ++ [d]), by simp, .closedLiteral d text rest hquote htext⟩
    · simp only [if_neg hd]
      refine ⟨quote :: text, rfl, .cutLiteral quote text _ hquote htext ⟨d, rfl, ?_⟩⟩
      have := hstop d rfl
      simpa [isLiteralCharacter, hd] using this

theorem piece_run {kind : Token.Kind} {accept : Char → Bool} {c : Char} (cs : List Char)
    (h : ∀ text rest : List Char, (∀ d ∈ text, accept d = true) → (∀ d ∈ rest.head?, accept d = false) →
      Piece (c :: text) rest (.token kind (c :: text) (utf8Length (c :: text)))) :
    ∃ piece, piece ++ (Lexeme.run kind accept c cs).2 = c :: cs ∧
      Piece piece (Lexeme.run kind accept c cs).2 (Lexeme.run kind accept c cs).1 := by
  refine ⟨c :: cs.takeWhile accept, ?_, h _ _ (forall_mem_takeWhile accept cs) (forall_head?_dropWhile accept cs)⟩
  simp [Lexeme.run, List.takeWhile_append_dropWhile]

/-- **What is cut off in front of a text is a piece of it.** -/
theorem piece_first (c : Char) (cs : List Char) :
    ∃ piece, piece ++ (Lexeme.first c cs).2 = c :: cs ∧ Piece piece (Lexeme.first c cs).2 (Lexeme.first c cs).1 := by
  unfold Lexeme.first
  by_cases hr : c = '\r'
  · subst hr
    rw [if_pos rfl]
    exact piece_lineBreak cs
  rw [if_neg hr]
  by_cases hq : c = '\'' ∨ c = '"'
  · rw [if_pos hq]
    exact piece_literal hq cs
  rw [if_neg hq]
  cases hp : Token.Kind.ofPunctuation? c with
  | some kind =>
    refine ⟨[c], rfl, ?_⟩
    by_cases hk : kind = .newline
    · subst hk
      obtain rfl : c = '\n' := by
        unfold Token.Kind.ofPunctuation? at hp
        split at hp <;> first | rfl | cases hp
      exact .lineFeed cs
    · exact .punctuation c kind cs hp hk
  | none =>
    by_cases ha : Text.isAlphabetic c = true
    · simp only [ha, if_true]
      refine piece_run cs (fun text rest htext hrest => .identifier _ rest ?_ hrest)
      simpa [isName, ha] using htext
    by_cases hn : c.isDigit = true
    · simp only [ha, hn, if_true, Bool.false_eq_true, if_false]
      refine piece_run cs (fun text rest htext hrest => .number _ rest (by simp) ?_ hrest)
      intro d hd
      rcases List.mem_cons.1 hd with rfl | hd
      · exact hn
      · exact htext d hd
    · simp only [ha, hn, Bool.false_eq_true, if_false]
      refine ⟨[c], rfl, .unexpectedCharacter c cs ?_⟩
      rw [not_or] at hq
      simp [beginsToken, hr, hq, hp, ha, hn]

/-! ## Whole texts -/

/-- A text cut into its pieces, each with what it is. -/
inductive Split : List Char → List (List Char × Lexeme) → Prop where
  | nil : Split [] []
  | cons {piece rest : List Char} {lexeme : Lexeme} {pieces : List (List Char × Lexeme)}
      (hpiece : Piece piece rest lexeme) (hrest : Split rest pieces) :
      Split (piece ++ rest) ((piece, lexeme) :: pieces)

theorem Piece.ne_nil {piece rest : List Char} {lexeme : Lexeme} (h : Piece piece rest lexeme) : piece ≠ [] := by
  cases h with
  | identifier _ _ hname => rintro rfl; cases hname
  | number _ _ hne       => exact hne
  | _                    => simp

theorem Split.flatten {cs : List Char} {pieces : List (List Char × Lexeme)} (h : Split cs pieces) :
    (pieces.map Prod.fst).flatten = cs := by
  induction h with
  | nil => rfl
  | cons _ _ ih => rw [List.map_cons, List.flatten_cons, ih]

theorem Split.forall_ne_nil {cs : List Char} {pieces : List (List Char × Lexeme)} (h : Split cs pieces) :
    ∀ piece ∈ pieces, piece.1 ≠ [] := by
  induction h with
  | nil => exact fun _ hmem => (List.not_mem_nil hmem).elim
  | cons hpiece _ ih =>
    intro piece hmem
    rcases List.mem_cons.1 hmem with rfl | hmem
    · exact hpiece.ne_nil
    · exact ih piece hmem

theorem exists_split : ∀ cs : List Char, ∃ pieces, Split cs pieces
  | []      => ⟨[], .nil⟩
  | c :: cs => by
    obtain ⟨piece, heq, hpiece⟩ := piece_first c cs
    obtain ⟨pieces, hrest⟩ := exists_split (Lexeme.first c cs).2
    rw [← heq]
    exact ⟨_, .cons hpiece hrest⟩
termination_by cs => cs.length
decreasing_by exact Nat.lt_succ_of_le (Lexeme.length_first_le c cs)

theorem Split.unique {cs : List Char} {pieces other : List (List Char × Lexeme)} (h : Split cs pieces)
    (h' : Split cs other) : other = pieces := by
  induction h generalizing other with
  | nil =>
    generalize hcs : ([] : List Char) = cs at h'
    cases h' with
    | nil             => rfl
    | cons hpiece _   => exact absurd (List.append_eq_nil_iff.1 hcs.symm).1 hpiece.ne_nil
  | @cons piece rest lexeme pieces hpiece hrest ih =>
    generalize hcs : piece ++ rest = cs at h'
    cases h' with
    | nil => exact absurd (List.append_eq_nil_iff.1 hcs).1 hpiece.ne_nil
    | @cons piece' rest' lexeme' pieces' hpiece' hrest' =>
      obtain ⟨c, cs, heq, hfirst⟩ := hpiece.first_eq
      obtain ⟨c', cs', heq', hfirst'⟩ := hpiece'.first_eq
      obtain ⟨rfl, rfl⟩ := List.cons.inj (heq.symm.trans (hcs.trans heq'))
      obtain ⟨rfl, rfl⟩ := Prod.mk.inj (hfirst.symm.trans hfirst')
      rw [List.append_cancel_right hcs, ih hrest']

/-- What the pieces of a text are, in their order. -/
def Spells (cs : List Char) (lexemes : List Lexeme) : Prop :=
  ∃ pieces, Split cs pieces ∧ pieces.map Prod.snd = lexemes

theorem exists_spells (cs : List Char) : ∃ lexemes, Spells cs lexemes :=
  (exists_split cs).imp' (·.map Prod.snd) fun pieces hsplit => ⟨pieces, hsplit, rfl⟩

theorem Spells.nil : Spells [] [] := ⟨[], .nil, rfl⟩

theorem Spells.cons {piece rest : List Char} {lexeme : Lexeme} {lexemes : List Lexeme}
    (hpiece : Piece piece rest lexeme) (hrest : Spells rest lexemes) : Spells (piece ++ rest) (lexeme :: lexemes) := by
  obtain ⟨pieces, hsplit, rfl⟩ := hrest
  exact ⟨_, .cons hpiece hsplit, rfl⟩

end RuleFile
