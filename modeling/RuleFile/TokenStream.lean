import RuleFile.Scanner
/-!
# Streams of tokens

A stream hands out tokens one at a time, and the end of input once it has no more.  A text is one, through its
scanner, and so is a list of tokens.  `size` bounds how many tokens are still to come, so reading a stream to its end
comes to an end.
-/
namespace RuleFile

class TokenStream (σ : Type) where
  next : σ → Except LexError Token × σ
  size : σ → Nat
  size_next : ∀ {s s' : σ} {t : Token}, next s = (.ok t, s') → t.kind ≠ .endOfInput → size s' < size s

namespace TokenStream

/-- What the first `n` requests to a stream give. -/
def take {σ : Type} [TokenStream σ] : Nat → σ → List (Except LexError Token)
  | 0,     _ => []
  | n + 1, s => (next s).1 :: take n (next s).2

end TokenStream

instance : TokenStream Scanner where
  next := Scanner.next
  size s := s.rest.length
  size_next h hk := Scanner.length_rest_next h (Scanner.rest_ne_nil_of_next h hk)

/-- A list of tokens, of any kinds and places, and the place of the end of input behind them. -/
structure TokenList where
  rest : List Token
  last : Position
  deriving DecidableEq, Repr, Inhabited

namespace TokenList

/-- The end of input follows the last token. -/
def ofTokens (tokens : List Token) : TokenList :=
  match tokens.getLast? with
  | none   => ⟨tokens, .start⟩
  | some t => ⟨tokens, t.position.after t.kind⟩

def next (s : TokenList) : Except LexError Token × TokenList :=
  match s.rest with
  | []            => (.ok (.endOfInput s.last), s)
  | token :: rest => (.ok token, ⟨rest, s.last⟩)

theorem length_rest_next {s s' : TokenList} {t : Token} (h : s.next = (.ok t, s')) (hk : t.kind ≠ .endOfInput) :
    s'.rest.length < s.rest.length := by
  unfold next at h
  split at h
  · simp only [Prod.mk.injEq, Except.ok.injEq] at h
    exact absurd (by rw [← h.1]; rfl) hk
  · rename_i hr
    cases h
    simp [hr]

instance : TokenStream TokenList where
  next := next
  size s := s.rest.length
  size_next := length_rest_next

end TokenList
end RuleFile
