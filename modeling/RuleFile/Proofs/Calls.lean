import Mathlib
import RuleFile.Proofs.Concatenation
/-!
# Calls of a scanner

A scanner can be asked for its next token or for the next item of an iteration, in any order.  `Scanner.calls` makes
such calls one after the other and keeps what each of them saw and gave.  What a call can do is said once
(`call_cases`): it is refused, it stands at the end of the text, or it takes a piece.  From that comes what is known of
a scanner behind any calls (`Stands`), and so what each of them returns (`calls_ofText`): places are counted by the
tokens returned, and by the line breaks of what was read.

An iteration that has stopped takes nothing more.  The other calls are those that reach the text, and they give what
`Scanner.next` alone would give (`replies_reaching`).
-/
namespace RuleFile

/-! ## Calls -/

/-- What a scanner is asked for: its next token, or the next item of an iteration. -/
inductive Demand where
  | token
  | item
  deriving DecidableEq, Repr

/-- A call, with the scanner in front of it and the scanner behind it. -/
structure Call where
  before : Scanner
  demand : Demand
  answer : Option (Except LexError Token)
  behind : Scanner
  deriving DecidableEq, Repr

namespace Scanner

def call (s : Scanner) : Demand → Call
  | .token => ⟨s, .token, some s.next.1, s.next.2⟩
  | .item  => ⟨s, .item, s.next?.1, s.next?.2⟩

/-- The calls that meet demands one after the other. -/
def calls : Scanner → List Demand → List Call
  | _, []              => []
  | s, demand :: later => s.call demand :: (s.call demand).behind.calls later

/-- The scanner behind such calls. -/
def after (s : Scanner) (demands : List Demand) : Scanner := demands.foldl (fun s demand => (s.call demand).behind) s

theorem calls_concat (demand : Demand) : ∀ (s : Scanner) (demands : List Demand),
    s.calls (demands ++ [demand]) = s.calls demands ++ [(s.after demands).call demand]
  | _, []          => rfl
  | s, d :: later => congrArg (s.call d :: ·) (calls_concat demand (s.call d).behind later)

theorem after_concat (s : Scanner) (demands : List Demand) (demand : Demand) :
    s.after (demands ++ [demand]) = ((s.after demands).call demand).behind :=
  List.foldl_concat (fun s demand => (call s demand).behind) s demand demands

theorem demand_call (s : Scanner) (demand : Demand) : (s.call demand).demand = demand := by
  cases demand <;> rfl

theorem before_call (s : Scanner) (demand : Demand) : (s.call demand).before = s := by
  cases demand <;> rfl

/-- A call in the middle is made by the scanner behind the calls in front of it. -/
theorem exists_of_calls_eq {c : Call} {later : List Call} :
    ∀ {before : List Call} {s : Scanner} {demands : List Demand}, s.calls demands = before ++ c :: later →
      ∃ front more, before = s.calls front ∧ c = (s.after front).call c.demand ∧ later = c.behind.calls more
  | _,           _, [],      h => absurd h.symm (by simp [calls])
  | [],          s, d :: ds, h => by
    obtain ⟨rfl, rfl⟩ := List.cons.inj h
    exact ⟨[], ds, rfl, by rw [demand_call]; rfl, rfl⟩
  | b :: before, s, d :: ds, h => by
    obtain ⟨rfl, hlater⟩ := List.cons.inj h
    obtain ⟨front, more, rfl, hc, rfl⟩ := exists_of_calls_eq hlater
    exact ⟨d :: front, more, rfl, hc, rfl⟩

end Scanner

/-! ## What calls show -/

/-- The token that a call has returned; the end of the input is none. -/
def Call.token? (c : Call) : Option Token :=
  match c.answer with
  | some (.ok t) => if t.kind = .endOfInput then none else some t
  | _            => none

/-- The tokens that calls have returned. -/
def returned (calls : List Call) : List Token := calls.filterMap Call.token?

/-- Whether an iteration stops with a call: it has come to an error or to the end. -/
def Call.stops (c : Call) : Bool :=
  c.demand == .item && match c.answer with
    | some (.ok _) => false
    | _            => true

/-- A call that comes to the end of the input, as its answer shows. -/
def Call.ReachesEnd (before : List Call) (c : Call) : Prop :=
  (∃ t, c.answer = some (.ok t) ∧ t.kind = .endOfInput) ∨ c.answer = none ∧ ∀ c' ∈ before, c'.stops = false

/-- The calls that reach the text: when an iteration has stopped, only those for a token do. -/
def reaching : List Call → List Call
  | []         => []
  | c :: later => c :: if c.stops then later.filter (·.demand == .token) else reaching later

/-- What a demand makes of the next token. -/
def Demand.reply : Demand → Except LexError Token → Option (Except LexError Token)
  | .token, r        => some r
  | .item,  .error e => some (.error e)
  | .item,  .ok t    => if t.kind = .endOfInput then none else some (.ok t)

def placeOf : Except LexError Token → Position
  | .ok t    => t.position
  | .error e => e.position

/-- The place behind tokens: as many rows as there are line breaks among them, and as many columns as there are tokens
behind the last one. -/
def countedPlace (tokens : List Token) : Position :=
  ⟨tokens.countP (·.kind == .newline), (tokens.reverse.takeWhile (·.kind != .newline)).length⟩

theorem countedPlace_concat (tokens : List Token) (t : Token) :
    countedPlace (tokens ++ [t]) = (countedPlace tokens).after t.kind := by
  by_cases hk : t.kind = .newline <;>
    simp [countedPlace, Position.after, Position.nextRow, Position.nextColumn, hk]

/-! ## One call -/

theorem call_of_finished {s : Scanner} (h : s.finished = true) : s.call .item = ⟨s, .item, none, s⟩ := by
  rw [Scanner.call, Scanner.next?, h]
  rfl

theorem call_of_nil (p : Position) (f : Bool) (demand : Demand) : (⟨[], p, f⟩ : Scanner).call demand =
    ⟨⟨[], p, f⟩, demand, demand.reply (.ok (.endOfInput p)), ⟨[], p, f || demand == .item⟩⟩ := by
  cases demand <;> cases f <;> rfl

theorem call_of_piece {piece rest : List Char} {lexeme : Lexeme} (h : Piece piece rest lexeme) (p : Position)
    {f : Bool} {demand : Demand} (hasked : demand = .token ∨ f = false) :
    (⟨piece ++ rest, p, f⟩ : Scanner).call demand = ⟨⟨piece ++ rest, p, f⟩, demand, some (lexeme.place p),
      ⟨rest, p.past lexeme, f || (demand == .item && !lexeme.isToken)⟩⟩ := by
  cases demand with
  | token =>
    rw [Scanner.call, next_of_piece h p f, show (Demand.token == .item) = false from rfl, Bool.false_and, Bool.or_false]
  | item  =>
    obtain rfl : f = false := hasked.resolve_left nofun
    rw [Scanner.call, next?_of_piece h p]
    rfl

/-- **What a call can do.**  An iteration that has stopped is refused; at the end of the text nothing moves; and else
the next piece of the text is taken, and an iteration stops if it is no token. -/
theorem call_cases (s : Scanner) (demand : Demand) :
    (demand = .item ∧ s.finished = true ∧ s.call demand = ⟨s, demand, none, s⟩) ∨
    (s.rest = [] ∧ s.call demand =
      ⟨s, demand, demand.reply (.ok (.endOfInput s.position)), ⟨[], s.position, s.finished || demand == .item⟩⟩) ∨
    ∃ piece rest lexeme, s.rest = piece ++ rest ∧ Piece piece rest lexeme ∧ s.call demand =
      ⟨s, demand, some (lexeme.place s.position),
        ⟨rest, s.position.past lexeme, s.finished || (demand == .item && !lexeme.isToken)⟩⟩ := by
  obtain ⟨cs, p, f⟩ := s
  by_cases hrefused : demand = .item ∧ f = true
  · obtain ⟨rfl, rfl⟩ := hrefused
    exact .inl ⟨rfl, rfl, call_of_finished rfl⟩
  right
  cases cs with
  | nil       => exact .inl ⟨rfl, call_of_nil p f demand⟩
  | cons c cs =>
    obtain ⟨piece, heq, hpiece⟩ := piece_first c cs
    have hasked : demand = .token ∨ f = false := by cases demand <;> simp_all
    rw [← heq]
    exact .inr ⟨piece, _, _, rfl, hpiece, call_of_piece hpiece p hasked⟩

/-! ## Behind any calls -/

/-- A scanner has read what stands in front of it in its text: all its line breaks are counted, and none is cut. -/
def ReadTo (text : String) (s : Scanner) : Prop :=
  ∃ consumed, text.toList = consumed ++ s.rest ∧ lineBreaks consumed = s.position.row ∧
    (consumed.getLast? = some '\r' → s.rest.head? ≠ some '\n')

theorem readTo_ofText (text : String) : ReadTo text (Scanner.ofText text) := by
  rw [ofText_eq]
  unfold withoutMark
  split
  · rename_i cs heq
    exact ⟨['\ufeff'], heq, rfl, nofun⟩
  · exact ⟨[], rfl, rfl, nofun⟩

theorem ReadTo.piece {text : String} {piece rest : List Char} {lexeme : Lexeme} {p : Position} {f : Bool}
    (h : ReadTo text ⟨piece ++ rest, p, f⟩) (hpiece : Piece piece rest lexeme) (f' : Bool) :
    ReadTo text ⟨rest, p.past lexeme, f'⟩ := by
  obtain ⟨consumed, htext, hrow, hmeet⟩ := h
  obtain ⟨c, cs, rfl⟩ := List.exists_cons_of_ne_nil hpiece.ne_nil
  have hhead : consumed.getLast? = some '\r' → (c :: cs).head? ≠ some '\n' := hmeet
  refine ⟨consumed ++ c :: cs, by rw [htext, List.append_assoc], ?_, fun hlast => ?_⟩
  · show _ = (p.past lexeme).row
    rw [lineBreaks_append_of_last hhead, hpiece.lineBreaks_eq, row_past, hrow]
  · rw [List.getLast?_append_of_ne_nil _ hpiece.ne_nil] at hlast
    exact hpiece.head?_ne_of_last hlast

theorem returned_concat (calls : List Call) (c : Call) :
    returned (calls ++ [c]) = returned calls ++ c.token?.toList := by
  rw [returned, List.filterMap_append]
  cases h : c.token? <;> simp [returned, h]

/-- What is known of a scanner of a text behind calls. -/
structure Stands (text : String) (calls : List Call) (s : Scanner) : Prop where
  position   : s.position = countedPlace (returned calls)
  readTo     : ReadTo text s
  finished   : s.finished = calls.any Call.stops
  increasing : (returned calls).Pairwise (·.position < ·.position)
  inFront    : ∀ t ∈ returned calls, t.position < s.position

theorem stands_ofText (text : String) : Stands text [] (Scanner.ofText text) where
  position   := by rw [ofText_eq]; rfl
  readTo     := readTo_ofText text
  finished   := by rw [ofText_eq]; rfl
  increasing := .nil
  inFront    := fun _ h => (List.not_mem_nil h).elim

theorem Stands.finished_concat {text : String} {calls : List Call} {s s' : Scanner} {c : Call} (h : Stands text calls s)
    (hfinished : s'.finished = (s.finished || c.stops)) : s'.finished = (calls ++ [c]).any Call.stops := by
  rw [hfinished, h.finished, List.any_append, List.any_cons, List.any_nil, Bool.or_false]

/-- A call that returns no token leaves the place where it is. -/
theorem Stands.of_none {text : String} {calls : List Call} {s s' : Scanner} {c : Call} (h : Stands text calls s)
    (hnone : c.token? = none) (hposition : s'.position = s.position) (hread : ReadTo text s')
    (hfinished : s'.finished = (s.finished || c.stops)) : Stands text (calls ++ [c]) s' := by
  have hreturned : returned (calls ++ [c]) = returned calls := by rw [returned_concat, hnone]; exact List.append_nil _
  refine ⟨?_, hread, h.finished_concat hfinished, ?_, ?_⟩
  · rw [hreturned, hposition, h.position]
  · rw [hreturned]
    exact h.increasing
  · rw [hreturned, hposition]
    exact h.inFront

/-- A call that returns a token goes on behind it. -/
theorem Stands.of_token {text : String} {calls : List Call} {s s' : Scanner} {c : Call} {t : Token}
    (h : Stands text calls s) (htoken : c.token? = some t) (ht : t.position = s.position)
    (hposition : s'.position = s.position.after t.kind) (hread : ReadTo text s')
    (hfinished : s'.finished = (s.finished || c.stops)) : Stands text (calls ++ [c]) s' := by
  have hreturned : returned (calls ++ [c]) = returned calls ++ [t] := by rw [returned_concat, htoken]; rfl
  have hlt : s.position < s'.position := hposition ▸ lt_after _ _
  refine ⟨?_, hread, h.finished_concat hfinished, ?_, ?_⟩
  · rw [hreturned, hposition, countedPlace_concat, h.position]
  · rw [hreturned]
    refine List.pairwise_append.2 ⟨h.increasing, List.pairwise_singleton _ _, fun u hu v hv => ?_⟩
    rw [List.mem_singleton.1 hv, ht]
    exact h.inFront u hu
  · rw [hreturned]
    intro u hu
    rcases List.mem_append.1 hu with hu | hu
    · exact Position.lt_trans (h.inFront u hu) hlt
    · rw [List.mem_singleton.1 hu, ht]
      exact hlt

/-- **A call keeps what is known of a scanner.** -/
theorem Stands.call {text : String} {calls : List Call} {s : Scanner} (h : Stands text calls s) (demand : Demand) :
    Stands text (calls ++ [s.call demand]) (s.call demand).behind := by
  rcases call_cases s demand with ⟨rfl, hf, heq⟩ | ⟨hrest, heq⟩ | ⟨piece, rest, lexeme, hrest, hpiece, heq⟩
  · rw [heq]
    exact h.of_none rfl rfl h.readTo (by rw [hf]; rfl)
  · have hread : ReadTo text ⟨[], s.position, s.finished || demand == .item⟩ := by
      obtain ⟨consumed, htext⟩ := h.readTo
      rw [hrest] at htext
      exact ⟨consumed, htext⟩
    rw [heq]
    exact h.of_none (by cases demand <;> rfl) rfl hread (by cases demand <;> rfl)
  · have hread (f : Bool) : ReadTo text ⟨rest, s.position.past lexeme, f⟩ := by
      obtain ⟨cs, p, f'⟩ := s
      obtain rfl : cs = piece ++ rest := hrest
      exact h.readTo.piece hpiece f
    rw [heq]
    cases lexeme with
    | failure cause     => exact h.of_none rfl rfl (hread _) (by cases demand <;> rfl)
    | token kind text n =>
      refine h.of_token (if_neg hpiece.kind_ne_endOfInput) rfl rfl (hread _) ?_
      cases demand <;> rfl

/-- **What is known of a scanner behind any calls.** -/
theorem stands_after (text : String) (demands : List Demand) :
    Stands text ((Scanner.ofText text).calls demands) ((Scanner.ofText text).after demands) := by
  induction demands using List.reverseRecOn with
  | nil => exact stands_ofText text
  | append_singleton demands demand ih =>
    rw [Scanner.calls_concat, Scanner.after_concat]
    exact ih.call demand

/-! ## Answers -/

theorem place_of_answer {s : Scanner} {demand : Demand} {r : Except LexError Token}
    (h : (s.call demand).answer = some r) : placeOf r = s.position := by
  rcases call_cases s demand with ⟨-, -, heq⟩ | ⟨-, heq⟩ | ⟨piece, rest, lexeme, -, -, heq⟩
  · rw [heq] at h
    cases h
  · rw [heq] at h
    cases demand with
    | token => cases h; rfl
    | item  => cases h
  · rw [heq] at h
    cases h
    cases lexeme <;> rfl

/-- Nothing is left of a text when a call has come to its end, and nothing moves any more. -/
theorem rest_of_reachesEnd {text : String} {calls : List Call} {s : Scanner} {demand : Demand}
    (h : Stands text calls s) (hend : (s.call demand).ReachesEnd calls) :
    (s.call demand).behind.rest = [] ∧ (s.call demand).behind.position = s.position := by
  rcases call_cases s demand with ⟨rfl, hf, heq⟩ | ⟨hrest, heq⟩ | ⟨piece, rest, lexeme, hrest, hpiece, heq⟩
  · -- an iteration that is refused has stopped before
    rw [heq] at hend
    rcases hend with ⟨t, ht, -⟩ | ⟨-, hnone⟩
    · cases ht
    · rw [h.finished, List.any_eq_true] at hf
      obtain ⟨c, hc, hstops⟩ := hf
      rw [hnone c hc] at hstops
      cases hstops
  · rw [heq]
    exact ⟨rfl, rfl⟩
  · rw [heq] at hend
    rcases hend with ⟨t, ht, hkind⟩ | ⟨hnone, -⟩
    · cases lexeme with
      | failure cause     => cases ht
      | token kind text n => cases ht; exact absurd hkind hpiece.kind_ne_endOfInput
    · cases hnone

/-- At the end of its text, a scanner hands out nothing but the end of the input. -/
theorem answer_of_rest_nil {p : Position} : ∀ {demands : List Demand} {s : Scanner}, s.rest = [] → s.position = p →
    ∀ c ∈ s.calls demands, c.demand = .token → c.answer = some (.ok (.endOfInput p))
  | demand :: later, ⟨[], p, f⟩, rfl, rfl, c, hc, hdemand => by
    have hcall := call_of_nil p f demand
    rcases List.mem_cons.1 hc with rfl | hc
    · rw [Scanner.demand_call] at hdemand
      rw [hcall, hdemand]
      rfl
    · exact answer_of_rest_nil (by rw [hcall]) (by rw [hcall]) c hc hdemand

/-! ## Calls that reach the text -/

/-- Whether an iteration has stopped makes no difference to what `Scanner.next` hands out. -/
theorem take_finished (f f' : Bool) : ∀ (k : Nat) (rest : List Char) (p : Position),
    TokenStream.take k (⟨rest, p, f⟩ : Scanner) = TokenStream.take k (⟨rest, p, f'⟩ : Scanner)
  | 0,     _,       _ => rfl
  | k + 1, [],      p => congrArg (Except.ok (Token.endOfInput p) :: ·) (take_finished f f' k [] p)
  | k + 1, c :: cs, p => by
    obtain ⟨piece, heq, hpiece⟩ := piece_first c cs
    have hnext (f : Bool) : TokenStream.next (⟨c :: cs, p, f⟩ : Scanner) =
        ((Lexeme.first c cs).1.place p, ⟨(Lexeme.first c cs).2, p.past (Lexeme.first c cs).1, f⟩) := by
      rw [← heq]
      exact next_of_piece hpiece p f
    rw [TokenStream.take, TokenStream.take, hnext f, hnext f']
    exact congrArg _ (take_finished f f' k _ _)

/-- A call that is not refused takes the next token. -/
theorem call_of_asked {s : Scanner} {demand : Demand} (h : demand = .token ∨ s.finished = false) :
    (s.call demand).answer = demand.reply s.next.1 ∧
    (s.call demand).behind = { s.next.2 with finished := s.finished || (s.call demand).stops } := by
  obtain ⟨cs, p, f⟩ := s
  cases cs with
  | nil =>
    rw [call_of_nil]
    cases demand <;> exact ⟨rfl, rfl⟩
  | cons c cs =>
    obtain ⟨piece, heq, hpiece⟩ := piece_first c cs
    rw [← heq, call_of_piece hpiece p h, next_of_piece hpiece p f]
    cases hlexeme : (Lexeme.first c cs).1 with
    | failure cause     => cases demand <;> exact ⟨rfl, rfl⟩
    | token kind text n =>
      rw [hlexeme] at hpiece
      cases demand with
      | token => exact ⟨rfl, rfl⟩
      | item  => exact ⟨(if_neg hpiece.kind_ne_endOfInput).symm, rfl⟩

/-- Calls are answered by what `Scanner.next` alone would hand out, token by token. -/
def Replies (s : Scanner) (calls : List Call) : Prop :=
  calls.map Call.answer = List.zipWith Demand.reply (calls.map Call.demand) (TokenStream.take calls.length s)

theorem Replies.cons {s : Scanner} {demand : Demand} {later : List Call} (h : demand = .token ∨ s.finished = false)
    (hlater : Replies (s.call demand).behind later) : Replies s (s.call demand :: later) := by
  obtain ⟨hanswer, hbehind⟩ := call_of_asked h
  have htake : TokenStream.take later.length (s.call demand).behind = TokenStream.take later.length s.next.2 := by
    rw [hbehind]
    exact take_finished _ _ _ _ _
  rw [Replies, htake] at hlater
  rw [Replies, List.map_cons, List.map_cons, List.length_cons, TokenStream.take, List.zipWith_cons_cons,
    Scanner.demand_call, hanswer, hlater]
  rfl

/-- When an iteration has stopped, the calls for a token go on. -/
theorem replies_of_finished : ∀ {demands : List Demand} {s : Scanner}, s.finished = true →
    Replies s ((s.calls demands).filter (·.demand == .token))
  | [],              _, _ => rfl
  | .token :: later, s, h => by
    have hbehind : (s.call .token).behind.finished = true := by
      rw [(call_of_asked (.inl rfl)).2, h]
      rfl
    exact .cons (.inl rfl) (replies_of_finished hbehind)
  | .item :: later,  s, h => by
    have hsame : (s.call .item).behind = s := by rw [call_of_finished h]
    have hlater : Replies s (((s.call .item).behind.calls later).filter (·.demand == .token)) := by
      rw [hsame]
      exact replies_of_finished h
    exact hlater

/-- **The calls that reach the text are answered by what `Scanner.next` alone would hand out.** -/
theorem replies_reaching : ∀ {demands : List Demand} {s : Scanner}, s.finished = false →
    Replies s (reaching (s.calls demands))
  | [],              _, _ => rfl
  | demand :: later, s, h => by
    have hbehind : (s.call demand).behind.finished = (s.call demand).stops := by
      rw [(call_of_asked (.inr h)).2, h]
      rfl
    rw [Scanner.calls, reaching]
    refine .cons (.inr h) ?_
    cases hstops : (s.call demand).stops with
    | true  => exact replies_of_finished (hbehind.trans hstops)
    | false => exact replies_reaching (hbehind.trans hstops)

/-! ## Calls on a text -/

/-- **Positions over any calls.**  For each call, with the calls in front of it and behind it:
what it returns is placed by the tokens returned before, and its row by the line breaks read before; when it comes to
the end of the input, every later call for a token returns that, at the same place; and an iteration that has stopped
returns nothing and takes nothing.  The places of the tokens returned go up, and the calls that reach the text return
what `Scanner.next` alone would. -/
theorem calls_ofText (text : String) (demands : List Demand) :
    (∀ before c later, (Scanner.ofText text).calls demands = before ++ c :: later →
      (∀ r, c.answer = some r → placeOf r = countedPlace (returned before) ∧
        ∃ consumed, text.toList = consumed ++ c.before.rest ∧ (placeOf r).row = lineBreaks consumed) ∧
      (c.ReachesEnd before → ∀ c' ∈ later, c'.demand = .token →
        c'.answer = some (.ok (.endOfInput (countedPlace (returned before))))) ∧
      (c.demand = .item → (∃ c' ∈ before, c'.stops = true) → c.answer = none ∧ c.behind = c.before)) ∧
    (returned ((Scanner.ofText text).calls demands)).Pairwise (·.position < ·.position) ∧
    Replies (Scanner.ofText text) (reaching ((Scanner.ofText text).calls demands)) := by
  refine ⟨fun before c later heq => ?_, (stands_after text demands).increasing, replies_reaching (by rw [ofText_eq])⟩
  obtain ⟨front, more, rfl, hc, rfl⟩ := Scanner.exists_of_calls_eq heq
  have hstands := stands_after text front
  generalize (Scanner.ofText text).after front = s at hc hstands
  generalize (Scanner.ofText text).calls front = before at hstands
  generalize hdemand : c.demand = demand at hc
  subst hc
  refine ⟨fun r hr => ?_, fun hend c' hc' htoken => ?_, ?_⟩
  · obtain ⟨consumed, htext, hrow, -⟩ := hstands.readTo
    rw [place_of_answer hr, Scanner.before_call]
    exact ⟨hstands.position, consumed, htext, hrow.symm⟩
  · obtain ⟨hrest, hposition⟩ := rest_of_reachesEnd hstands hend
    exact answer_of_rest_nil hrest (hposition.trans hstands.position) c' hc' htoken
  · rintro rfl ⟨c', hc', hstops⟩
    have hfinished : s.finished = true := hstands.finished.trans (List.any_eq_true.2 ⟨c', hc', hstops⟩)
    rw [call_of_finished hfinished]
    exact ⟨rfl, rfl⟩

/-- An iteration that stops at an error, and calls for a token that go on behind it, through a literal that is not
terminated and to the end. -/
def stoppedCalls : List Call :=
  (Scanner.ofText "a\r\n^'b").calls [.token, .item, .item, .item, .token, .token, .token]

/-- The error of the literal is in the second row, behind one line break; the end is where it was. -/
theorem calls_ofText_stopped :
    stoppedCalls.map Call.answer =
      [some (.ok ⟨.identifier, "a", 1, ⟨0, 0⟩⟩), some (.ok ⟨.newline, "\n", 2, ⟨0, 1⟩⟩),
        some (.error ⟨.unexpectedCharacter '^', ⟨1, 0⟩⟩), none, some (.error ⟨.unterminatedLiteral '\'', ⟨1, 0⟩⟩),
        some (.ok (.endOfInput ⟨1, 0⟩)), some (.ok (.endOfInput ⟨1, 0⟩))] ∧
    countedPlace (returned (stoppedCalls.take 4)) = ⟨1, 0⟩ ∧
    (∃ consumed, "a\r\n^'b".toList = consumed ++ ['\'', 'b'] ∧ 1 = lineBreaks consumed) ∧
    (returned stoppedCalls).Pairwise (·.position < ·.position) ∧
    Replies (Scanner.ofText "a\r\n^'b") (reaching stoppedCalls) := by
  have hfifth : stoppedCalls = stoppedCalls.take 4 ++ ⟨⟨['\'', 'b'], ⟨1, 0⟩, true⟩, .token,
      some (.error ⟨.unterminatedLiteral '\'', ⟨1, 0⟩⟩), ⟨[], ⟨1, 0⟩, true⟩⟩ :: stoppedCalls.drop 5 := by cbv
  have hcalls := calls_ofText "a\r\n^'b" [.token, .item, .item, .item, .token, .token, .token]
  obtain ⟨hplace, hconsumed⟩ := (hcalls.1 _ _ _ hfifth).1 _ rfl
  exact ⟨by cbv, hplace.symm, hconsumed, hcalls.2.1, hcalls.2.2⟩

end RuleFile
