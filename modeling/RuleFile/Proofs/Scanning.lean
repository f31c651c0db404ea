import RuleFile.Proofs.Pieces
/-!
# What a scanner hands out

A scanner hands out the pieces of its text in their order, errors among them, and then the end of input for ever
(`take_of_split`).  The place of each is what the tokens in front of it make of the start: an error moves nothing.
-/
namespace RuleFile

/-! ## Places -/

def Lexeme.place (p : Position) : Lexeme → Except LexError Token
  | token kind text byteLength => .ok ⟨kind, String.ofList text, byteLength, p⟩
  | failure cause              => .error ⟨cause, p⟩

def Position.past (p : Position) : Lexeme → Position
  | .token kind _ _ => p.after kind
  | .failure _      => p

/-- The pieces of a text in their order, each at its place. -/
def placed : Position → List Lexeme → List (Except LexError Token)
  | _, []                => []
  | p, lexeme :: lexemes => lexeme.place p :: placed (p.past lexeme) lexemes

def placeBehind (p : Position) (lexemes : List Lexeme) : Position := lexemes.foldl Position.past p

/-! ## Scanners -/

theorem next_of_piece {piece rest : List Char} {lexeme : Lexeme} (h : Piece piece rest lexeme) (p : Position)
    (f : Bool) : Scanner.next ⟨piece ++ rest, p, f⟩ = (lexeme.place p, ⟨rest, p.past lexeme, f⟩) := by
  obtain ⟨c, cs, heq, hfirst⟩ := h.first_eq
  rw [heq]
  simp only [Scanner.next, hfirst]
  cases lexeme <;> rfl

/-- What a scanner hands out in front of its end is the next piece of its text. -/
theorem exists_piece_of_next {s s' : Scanner} {r : Except LexError Token} (h : s.next = (r, s')) (hne : s.rest ≠ []) :
    ∃ piece lexeme, s.rest = piece ++ s'.rest ∧ Piece piece s'.rest lexeme ∧ r = lexeme.place s.position := by
  obtain ⟨rest, p, f⟩ := s
  obtain ⟨c, cs, rfl⟩ := List.exists_cons_of_ne_nil hne
  obtain ⟨piece, heq, hpiece⟩ := piece_first c cs
  rw [← heq, next_of_piece hpiece p f] at h
  cases h
  exact ⟨piece, (Lexeme.first c cs).1, heq.symm, hpiece, rfl⟩

theorem take_nil (p : Position) (f : Bool) : ∀ k : Nat,
    TokenStream.take k (⟨[], p, f⟩ : Scanner) = List.replicate k (.ok (.endOfInput p))
  | 0     => rfl
  | k + 1 => by
    rw [List.replicate_succ, ← take_nil p f k]
    rfl

/-- **A scanner hands out the pieces of its text, and then the end of input.** -/
theorem take_of_split {cs : List Char} {pieces : List (List Char × Lexeme)} (h : Split cs pieces) (k : Nat)
    (p : Position) (f : Bool) :
    TokenStream.take (pieces.length + k) (⟨cs, p, f⟩ : Scanner) =
      placed p (pieces.map Prod.snd) ++ List.replicate k (.ok (.endOfInput (placeBehind p (pieces.map Prod.snd)))) := by
  induction h generalizing p with
  | nil => simpa [placed, placeBehind] using take_nil p f k
  | @cons piece rest lexeme pieces hpiece hrest ih =>
    have hnext : TokenStream.next (⟨piece ++ rest, p, f⟩ : Scanner) = (lexeme.place p, ⟨rest, p.past lexeme, f⟩) :=
      next_of_piece hpiece p f
    rw [List.length_cons, Nat.add_right_comm, TokenStream.take, hnext, ih]
    rfl

theorem Piece.kind_ne_endOfInput {piece rest text : List Char} {kind : Token.Kind} {n : Nat}
    (h : Piece piece rest (.token kind text n)) : kind ≠ .endOfInput := by
  obtain ⟨c, cs, -, hfirst⟩ := h.first_eq
  exact Lexeme.kind_first_ne_endOfInput (congrArg Prod.fst hfirst)

theorem kind_ne_endOfInput_of_mem_placed {cs : List Char} {pieces : List (List Char × Lexeme)} (h : Split cs pieces)
    {p : Position} {t : Token} (ht : .ok t ∈ placed p (pieces.map Prod.snd)) : t.kind ≠ .endOfInput := by
  induction h generalizing p with
  | nil => cases ht
  | @cons piece rest lexeme pieces hpiece hrest ih =>
    rcases List.mem_cons.1 ht with heq | ht
    · cases lexeme with
      | token kind text n => cases heq; exact hpiece.kind_ne_endOfInput
      | failure cause     => cases heq
    · exact ih ht

/-! ## Texts -/

/-- The characters of a text that count: all but a byte order mark in front. -/
def withoutMark : List Char → List Char
  | '\ufeff' :: cs => cs
  | cs             => cs

theorem withoutMark_of_head? {cs : List Char} (h : cs.head? ≠ some '\ufeff') : withoutMark cs = cs := by
  rw [withoutMark]
  rintro cs rfl
  exact h rfl

theorem ofText_eq (text : String) : Scanner.ofText text = ⟨withoutMark text.toList, .start, false⟩ := by
  unfold Scanner.ofText
  split
  · rename_i heq
    rw [heq]
    rfl
  · rename_i hne
    rw [withoutMark]
    exact hne

/-- **The tokens and errors of a text are its pieces.**  There is one way to cut the text into pieces; asked again and
again, a scanner hands out these in their order, each at its place, and nothing but the end of input after them. -/
theorem take_ofText_eq_placed_split (text : String) :
    ∃ pieces, Split (withoutMark text.toList) pieces ∧
      (∀ other, Split (withoutMark text.toList) other → other = pieces) ∧
      (pieces.map Prod.fst).flatten = withoutMark text.toList ∧ (∀ piece ∈ pieces, piece.1 ≠ []) ∧
      (∀ t, .ok t ∈ placed .start (pieces.map Prod.snd) → t.kind ≠ .endOfInput) ∧
      ∀ k, TokenStream.take (pieces.length + k) (Scanner.ofText text) =
        placed .start (pieces.map Prod.snd) ++
          List.replicate k (.ok (.endOfInput (placeBehind .start (pieces.map Prod.snd)))) := by
  obtain ⟨pieces, hsplit⟩ := exists_split (withoutMark text.toList)
  refine ⟨pieces, hsplit, fun other h => hsplit.unique h, hsplit.flatten, hsplit.forall_ne_nil, ?_, ?_⟩
  · exact fun t ht => kind_ne_endOfInput_of_mem_placed hsplit ht
  · intro k
    rw [ofText_eq]
    exact take_of_split hsplit k .start false

end RuleFile
