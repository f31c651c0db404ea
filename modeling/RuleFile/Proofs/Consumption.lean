import Mathlib
import RuleFile.Proofs.DescentReading
import RuleFile.Proofs.Scanning
/-!
# What a reading takes

A reading asks its stream for one token after the other.  `Needs` says for what there is to be handed out how far it
goes, and what comes of it: up to the first error or the first end of input, and never further.  So a reading is the
same on all streams that hand out the same so far (`Needs.read_eq`).

The requests are real ones.  A `Recorded` stream writes down what it hands out, and a descent over it leaves just the
items of the reading on the record, each of them once, and none in its slot (`descend_recorded`).

A text that fails to be built fails behind its first piece, and so comes to an end if it is built from what is left
again and again (`exists_builds_ok`).
-/
namespace RuleFile

open Grammar

/-! ## Streams that hand out items -/

section

variable {σ : Type} [TokenStream σ]

/-- Asked for as many tokens, a stream hands out `items`, and `rest` is left of it. -/
inductive Hands : σ → List (Except LexError Token) → σ → Prop where
  | nil (source : σ) : Hands source [] source
  | cons {source later rest : σ} {item : Except LexError Token} {items : List (Except LexError Token)}
      (hnext : TokenStream.next source = (item, later)) (hlater : Hands later items rest) :
      Hands source (item :: items) rest

theorem Hands.lookahead {source rest : σ} {items : List (Except LexError Token)} (h : Hands source items rest) :
    Hands (⟨source, none⟩ : Lookahead σ) items ⟨rest, none⟩ := by
  induction h with
  | nil source            => exact .nil _
  | cons hnext hlater ih =>
    refine .cons ?_ ih
    show Lookahead.next _ = _
    rw [Lookahead.next, hnext]

end

/-- A stream that writes down what it hands out. -/
structure Recorded (σ : Type) where
  source : σ
  handed : List (Except LexError Token)

namespace Recorded

variable {σ : Type} [TokenStream σ]

def next (s : Recorded σ) : Except LexError Token × Recorded σ :=
  let (item, rest) := TokenStream.next s.source
  (item, ⟨rest, s.handed ++ [item]⟩)

instance : TokenStream (Recorded σ) where
  next := next
  size s := TokenStream.size s.source
  size_next := by
    intro s s' t h hk
    obtain ⟨hitem, rfl⟩ := Prod.mk.inj h
    exact TokenStream.size_next (Prod.ext hitem rfl) hk

end Recorded

section

variable {σ : Type} [TokenStream σ]

theorem Hands.recorded {source rest : σ} {items : List (Except LexError Token)} (h : Hands source items rest)
    (handed : List (Except LexError Token)) :
    Hands (⟨source, handed⟩ : Recorded σ) items ⟨rest, handed ++ items⟩ := by
  induction h generalizing handed with
  | nil source                    =>
    rw [List.append_nil]
    exact .nil _
  | @cons source later rest item items hnext hlater ih =>
    have hrecorded : TokenStream.next (⟨source, handed⟩ : Recorded σ) = (item, ⟨later, handed ++ [item]⟩) := by
      show Recorded.next _ = _
      rw [Recorded.next, hnext]
    rw [List.append_cons]
    exact .cons hrecorded (ih _)

end

/-! ## Items of a reading -/

variable {settings : Settings}

/-- From a state, a reading takes `items` and no more, and `account` is what comes of them. -/
inductive Needs (settings : Settings) : State → List (Except LexError Token) → Account → Prop where
  | failure (state : State) (e : LexError) : Needs settings state [.error e] (.failure e)
  | ending {token : Token} (state : State) (hk : token.kind = .endOfInput) :
      Needs settings state [.ok token] (.ending token.position state)
  | reject {state : State} {token : Token} {e : ParseError} (hk : token.kind ≠ .endOfInput)
      (hmove : (state.advance settings token).result = .error e) :
      Needs settings state [.ok token] ⟨(state.advance settings token).notes, .error (.parse e)⟩
  | advance {state state' : State} {token : Token} {items : List (Except LexError Token)} {account : Account}
      (hk : token.kind ≠ .endOfInput) (hmove : (state.advance settings token).result = .ok state')
      (hlater : Needs settings state' items account) :
      Needs settings state (.ok token :: items)
        ⟨(state.advance settings token).notes ++ account.notes, account.outcome⟩

section

variable {σ : Type} [TokenStream σ] {state : State} {items : List (Except LexError Token)} {account : Account}

/-- **Every reading takes some items**, and leaves what is behind them. -/
theorem exists_needs (settings : Settings) (state : State) (source : σ) :
    ∃ items, Hands source items (read settings state source).rest ∧
      Needs settings state items (read settings state source).account := by
  cases hnext : TokenStream.next source with
  | mk item rest =>
  cases item with
  | error e  =>
    rw [read_of_failure hnext]
    exact ⟨_, .cons hnext (.nil rest), .failure state e⟩
  | ok token =>
    by_cases hk : token.kind = .endOfInput
    · rw [read_of_end hnext hk]
      exact ⟨_, .cons hnext (.nil rest), .ending state hk⟩
    · cases hmove : (state.advance settings token).result with
      | error e   =>
        rw [read_of_reject hnext hk hmove]
        exact ⟨_, .cons hnext (.nil rest), .reject hk hmove⟩
      | ok state' =>
        obtain ⟨items, hhands, hneeds⟩ := exists_needs settings state' rest
        rw [read_of_advance hnext hk hmove]
        exact ⟨_, .cons hnext hhands, .advance hk hmove hneeds⟩
termination_by TokenStream.size source
decreasing_by exact TokenStream.size_next hnext hk

theorem Needs.exists_cons (h : Needs settings state items account) : ∃ item later, items = item :: later := by
  cases h <;> exact ⟨_, _, rfl⟩

/-- **A reading is the same on all streams that hand out the items it takes.** -/
theorem Needs.read_eq (h : Needs settings state items account) {source rest : σ} (hs : Hands source items rest) :
    read settings state source = ⟨account.notes, account.outcome, rest⟩ := by
  induction h generalizing source with
  | failure state e            =>
    obtain _ | ⟨hnext, _ | _⟩ := hs
    exact read_of_failure hnext
  | ending state hk            =>
    obtain _ | ⟨hnext, _ | _⟩ := hs
    exact read_of_end hnext hk
  | reject hk hmove            =>
    obtain _ | ⟨hnext, _ | _⟩ := hs
    exact read_of_reject hnext hk hmove
  | advance hk hmove hlater ih =>
    obtain _ | ⟨hnext, hlater⟩ := hs
    rw [read_of_advance hnext hk hmove, ih hlater]

/-- A reading without an error goes up to the first end of input. -/
theorem Needs.ends (h : Needs settings state items account) (hok : account.outcome = .ok ()) :
    ∃ tokens last, items = (tokens ++ [last]).map .ok ∧ (∀ t ∈ tokens, t.kind ≠ .endOfInput) ∧
      last.kind = .endOfInput := by
  induction h with
  | failure state e                     => cases hok
  | @ending token state hk              => exact ⟨[], token, rfl, by simp, hk⟩
  | reject hk hmove                     => cases hok
  | @advance _ _ token _ _ hk hmove hlater ih =>
    obtain ⟨tokens, last, rfl, htokens, hlast⟩ := ih hok
    exact ⟨token :: tokens, last, rfl, by simpa using ⟨hk, htokens⟩, hlast⟩

/-- **A descent asks for the items of the reading, and for each of them once.** -/
theorem descend_recorded (h : Needs settings .statement items account) {source rest : σ} (hs : Hands source items rest)
    {n : Nat} (hn : TokenStream.size source < n) :
    descend settings n (⟨source, []⟩ : Recorded σ) =
      (Descent.Fault.ofOutcome account.outcome, ⟨⟨⟨rest, items⟩, none⟩, account.notes⟩) := by
  have hsize : TokenStream.size (⟨source, []⟩ : Recorded σ) < n := hn
  rw [descend_eq settings hsize, Descent.resume, h.read_eq (hs.recorded []).lookahead]
  rfl

end

/-! ## Texts that are built again and again -/

/-- What a scanner hands out is cut off the front of its text. -/
theorem exists_append_of_hands {s s' : Scanner} {items : List (Except LexError Token)} (h : Hands s items s') :
    ∃ consumed, s.rest = consumed ++ s'.rest := by
  induction h with
  | nil s => exact ⟨[], rfl⟩
  | @cons s later s' item items hnext hlater ih =>
    obtain ⟨consumed, hconsumed⟩ := ih
    by_cases hne : s.rest = []
    · have hlater : later = s := by
        obtain ⟨rest, p, f⟩ := s
        cases hne
        exact (congrArg Prod.snd hnext).symm
      exact ⟨consumed, by rw [← hconsumed, hlater]⟩
    · obtain ⟨piece, -, hpiece, -⟩ := exists_piece_of_next hnext hne
      exact ⟨piece ++ consumed, by rw [hpiece, hconsumed, List.append_assoc]⟩

theorem exists_consumed_of_hands {s s' : Scanner} {item : Except LexError Token} {items : List (Except LexError Token)}
    (h : Hands s (item :: items) s') (hne : s.rest ≠ []) :
    ∃ consumed, consumed ≠ [] ∧ s.rest = consumed ++ s'.rest := by
  obtain _ | ⟨hnext, hlater⟩ := h
  obtain ⟨piece, _, heq, hpiece, -⟩ := exists_piece_of_next hnext hne
  obtain ⟨consumed, hconsumed⟩ := exists_append_of_hands hlater
  exact ⟨piece ++ consumed, by simp [hpiece.ne_nil], by rw [heq, hconsumed, List.append_assoc]⟩

/-- **A build that fails takes something from its text.** -/
theorem exists_consumed_of_error {program : Program} {settings : Settings} {s : Scanner} {e : Error}
    (h : (program.build settings s).outcome = .error e) :
    ∃ consumed, consumed ≠ [] ∧ s.rest = consumed ++ (program.build settings s).rest.rest := by
  have hne : s.rest ≠ [] := by
    intro hnil
    have hnext : TokenStream.next s = (.ok (.endOfInput s.position), s) := by
      obtain ⟨rest, p, f⟩ := s
      cases hnil
      rfl
    have hok : (program.build settings s).outcome = .ok () :=
      congrArg Reading.outcome (read_of_end hnext rfl)
    rw [hok] at h
    cases h
  obtain ⟨items, hhands, hneeds⟩ := exists_needs settings .statement s
  obtain ⟨item, later, rfl⟩ := hneeds.exists_cons
  exact exists_consumed_of_hands hhands hne

/-- Builds one after the other, each of what the one before has left, and on top of its program. -/
def Program.builds {σ : Type} [TokenStream σ] (program : Program) (settings : Nat → Settings) (source : σ) :
    Nat → Build σ
  | 0     => program.build (settings 0) source
  | k + 1 =>
    let before := program.builds settings source k
    before.program.build (settings (k + 1)) before.rest

theorem length_rest_build_lt {program : Program} {settings : Settings} {s : Scanner}
    (h : (program.build settings s).outcome ≠ .ok ()) :
    (program.build settings s).rest.rest.length < s.rest.length := by
  cases hbuild : (program.build settings s).outcome with
  | ok u    => exact absurd hbuild h
  | error e =>
    obtain ⟨consumed, hne, heq⟩ := exists_consumed_of_error hbuild
    rw [heq, List.length_append]
    have := List.length_pos_iff.2 hne
    omega

theorem length_rest_builds_lt (program : Program) (settings : Nat → Settings) (s : Scanner) (k : Nat)
    (h : ∀ i ≤ k, (program.builds settings s i).outcome ≠ .ok ()) :
    (program.builds settings s k).rest.rest.length + k < s.rest.length := by
  induction k with
  | zero      => exact length_rest_build_lt (h 0 (Nat.le_refl 0))
  | succ k ih =>
    have hbefore := ih fun i hi => h i (Nat.le_succ_of_le hi)
    have hlast : (program.builds settings s (k + 1)).rest.rest.length <
        (program.builds settings s k).rest.rest.length :=
      length_rest_build_lt (h (k + 1) (Nat.le_refl _))
    omega

/-- **A text is built to its end after as many failures as it has characters**, or fewer. -/
theorem exists_builds_ok (program : Program) (settings : Nat → Settings) (s : Scanner) :
    ∃ k ≤ s.rest.length, (program.builds settings s k).outcome = .ok () := by
  by_contra hnone
  have := length_rest_builds_lt program settings s s.rest.length fun i hi hok => hnone ⟨i, hi, hok⟩
  omega

theorem length_rest_ofText_le (text : String) : (Scanner.ofText text).rest.length ≤ text.length := by
  rw [ofText_eq, ← String.length_toList]
  unfold withoutMark
  split <;> simp_all

/-! ## All of it -/

/-- What a build takes from its stream: `items`, and it needs no more. -/
structure Build.Takes {σ : Type} [TokenStream σ] (b : Build σ) (program : Program) (settings : Settings) (source : σ)
    (items : List (Except LexError Token)) : Prop where
  /-- A descent that has rounds enough asks for each of them once.  It never puts a token back where one is put back
  already, and in the end none is. -/
  descended : ∀ n, TokenStream.size source < n → descend settings n (⟨source, []⟩ : Recorded σ) =
    (Descent.Fault.ofOutcome b.outcome, ⟨⟨⟨b.rest, items⟩, none⟩, b.notes⟩)
  handed    : Hands source items b.rest
  /-- Without an error, they go up to the first end of input, and that with them. -/
  ended     : b.outcome = .ok () → ∃ tokens last, items = (tokens ++ [last]).map .ok ∧
    (∀ t ∈ tokens, t.kind ≠ .endOfInput) ∧ last.kind = .endOfInput
  /-- Whatever a stream has behind them, the build is the same. -/
  elsewhere : ∀ {τ : Type} [TokenStream τ] (other rest : τ), Hands other items rest →
    program.build settings other = ⟨b.program, b.notes, b.outcome, rest⟩

theorem exists_takes {σ : Type} [TokenStream σ] (program : Program) (settings : Settings) (source : σ) :
    ∃ items, (program.build settings source).Takes program settings source items := by
  obtain ⟨items, hhands, hneeds⟩ := exists_needs settings .statement source
  refine ⟨items, fun n hn => descend_recorded hneeds hhands hn, hhands, hneeds.ends, ?_⟩
  intro τ _ other rest hother
  rw [Program.build, hneeds.read_eq hother]
  rfl

/-- **A build takes from its stream just what it needs.**  A text of which a build fails has lost a character by then,
and of as many builds as it has characters, and one more, one comes to its end. -/
theorem build_takes (program : Program) :
    (∀ {σ : Type} [TokenStream σ] (settings : Settings) (source : σ),
      ∃ items, (program.build settings source).Takes program settings source items) ∧
    (∀ (settings : Settings) (s : Scanner) (e : Error), (program.build settings s).outcome = .error e →
      ∃ consumed, consumed ≠ [] ∧ s.rest = consumed ++ (program.build settings s).rest.rest) ∧
    ∀ (settings : Nat → Settings) (text : String),
      ∃ k ≤ text.length, (program.builds settings (Scanner.ofText text) k).outcome = .ok () := by
  refine ⟨fun settings source => exists_takes program settings source, fun settings s e => exists_consumed_of_error, ?_⟩
  intro settings text
  obtain ⟨k, hk, hok⟩ := exists_builds_ok program settings (Scanner.ofText text)
  exact ⟨k, Nat.le_trans hk (length_rest_ofText_le text), hok⟩

/-- A reference that is cut off by the end of its text, and an end of input in front of a colon. -/
theorem build_takes_dollar :
    (parseText {} "$").outcome =
      .error (.parse ⟨.unexpectedToken .endOfInput [.leftParen, .lessThan], ⟨0, 1⟩⟩) ∧
    (∃ consumed, consumed ≠ [] ∧ ['$'] = consumed ++ (parseText {} "$").rest.rest) ∧
    (∃ k ≤ 1, (Program.empty.builds (fun _ => {}) (Scanner.ofText "$") k).outcome = .ok ()) ∧
    (parseTokens {} [.endOfInput .start, ⟨.colon, ":", 1, .start⟩]).outcome = .ok () ∧
    ∃ items tokens last,
      Hands (TokenList.ofTokens [.endOfInput .start, ⟨.colon, ":", 1, .start⟩]) items
        ⟨[⟨.colon, ":", 1, .start⟩], ⟨0, 1⟩⟩ ∧
      items = (tokens ++ [last]).map .ok ∧ (∀ t ∈ tokens, t.kind ≠ .endOfInput) ∧ last.kind = .endOfInput := by
  have herror : (parseText {} "$").outcome =
      .error (.parse ⟨.unexpectedToken .endOfInput [.leftParen, .lessThan], ⟨0, 1⟩⟩) := by cbv
  have hok : (parseTokens {} [.endOfInput .start, ⟨.colon, ":", 1, .start⟩]).outcome = .ok () := by cbv
  have hrest : (parseTokens {} [.endOfInput .start, ⟨.colon, ":", 1, .start⟩]).rest =
      ⟨[⟨.colon, ":", 1, .start⟩], ⟨0, 1⟩⟩ := by cbv
  obtain ⟨htakes, hconsumed, hbuilds⟩ := build_takes .empty
  obtain ⟨items, hitems⟩ := htakes {} (TokenList.ofTokens [.endOfInput .start, ⟨.colon, ":", 1, .start⟩])
  obtain ⟨tokens, last, heq, htokens, hlast⟩ := hitems.ended hok
  refine ⟨herror, hconsumed _ _ _ herror, hbuilds _ "$", hok, items, tokens, last, ?_, heq, htokens, hlast⟩
  exact hrest ▸ hitems.handed

end RuleFile
