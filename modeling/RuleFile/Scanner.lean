import RuleFile.Lexeme
/-!
# Scanners

A scanner stands in a text and hands out its tokens one at a time.  `Scanner.next` goes on after an error, past the
piece at fault, and repeats the end of input for ever.  `Scanner.next?` is the same as an iterator: it stops for good
at the first error or at the end.  `tokenize` collects the tokens of a whole text.
-/
namespace RuleFile

/-! ## Places in a text

A byte order mark in front of a text does not count.  The position moves on only past a token: a piece at fault is
taken, but the next token has the place that it would have had.  That an iteration has stopped is known of the scanner,
and `Scanner.next` pays no heed to it. -/

structure Scanner where
  rest     : List Char
  position : Position
  finished : Bool
  deriving DecidableEq, Repr, Inhabited

namespace Scanner

def ofText (text : String) : Scanner :=
  match text.toList with
  | '\ufeff' :: rest => ⟨rest, .start, false⟩
  | rest             => ⟨rest, .start, false⟩

def next (s : Scanner) : Except LexError Token × Scanner :=
  match s.rest with
  | []      => (.ok (.endOfInput s.position), s)
  | c :: cs =>
    match Lexeme.first c cs with
    | (.token kind text byteLength, rest) =>
      (.ok ⟨kind, String.ofList text, byteLength, s.position⟩, ⟨rest, s.position.after kind, s.finished⟩)
    | (.failure cause, rest) => (.error ⟨cause, s.position⟩, ⟨rest, s.position, s.finished⟩)

def next? (s : Scanner) : Option (Except LexError Token) × Scanner :=
  if s.finished then (none, s)
  else match s.next with
    | (.error e, s') => (some (.error e), { s' with finished := true })
    | (.ok t, s')    =>
      if t.kind = .endOfInput then (none, { s' with finished := true }) else (some (.ok t), s')

/-! ## Progress -/

theorem length_rest_next {s s' : Scanner} {r : Except LexError Token} (h : s.next = (r, s')) (hne : s.rest ≠ []) :
    s'.rest.length < s.rest.length := by
  unfold next at h
  split at h
  · exact absurd ‹_› hne
  · rename_i c cs hc
    have hl := Lexeme.length_first_le c cs
    rw [hc]
    split at h <;> (rename_i heq; rw [heq] at hl; cases h; simp at hl ⊢; omega)

theorem rest_ne_nil_of_next {s s' : Scanner} {t : Token} (h : s.next = (.ok t, s')) (hk : t.kind ≠ .endOfInput) :
    s.rest ≠ [] := by
  intro hr
  simp only [next, hr, Prod.mk.injEq, Except.ok.injEq] at h
  exact hk (by rw [← h.1]; rfl)

theorem next_of_next? {s s' : Scanner} {t : Token} (h : s.next? = (some (.ok t), s')) :
    s.next = (.ok t, s') ∧ t.kind ≠ .endOfInput := by
  unfold next? at h
  grind

/-- What an iteration from here hands out. -/
def remaining (s : Scanner) : List (Except LexError Token) :=
  match _h : s.next? with
  | (none, _)            => []
  | (some (.error e), _) => [.error e]
  | (some (.ok t), s')   => .ok t :: s'.remaining
termination_by s.rest.length
decreasing_by
  obtain ⟨hn, hk⟩ := next_of_next? _h
  exact length_rest_next hn (rest_ne_nil_of_next hn hk)

end Scanner

/-- The tokens of a whole text, without the end of input, or its first error. -/
def tokenize (text : String) : Except LexError (List Token) :=
  (Scanner.ofText text).remaining.mapM id

end RuleFile
