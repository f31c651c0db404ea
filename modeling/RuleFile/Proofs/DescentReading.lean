import RuleFile.Proofs.Descent
/-!
# Descents and the grammar

A descent keeps in its calls what the grammar keeps in its state.  So each part of it is compared with the grammar
together with what is done after it: if that reads on as the grammar does in the state behind the part, then both do
as the grammar does in the state in front of it (`Descent.Reads`).  Where a part has got its first token already, the
grammar is to look at that one next (`Descent.ReadsOn`).

The loops come to their end because a token that is no end of input leaves less ahead, and because an end of input
that has been put back leaves nothing.  All together, a descent does what the grammar does (`descend_eq`).
-/
namespace RuleFile

open Grammar Grammar.Move

namespace Descent

/-! ## Single steps -/

section

variable {σ : Type} {α β : Type}

theorem on_next_bind [TokenStream σ] (r : Reader σ) (k : Token → Descent σ α) :
    (next >>= k).on r =
      match r.ahead.next.1 with
      | .ok token => (k token).on ⟨r.ahead.next.2, r.notes⟩
      | .error e  => (.error (.error (.lex e)), ⟨r.ahead.next.2, r.notes⟩) := by
  show (ofItem r.ahead.next.1 >>= k).on ⟨r.ahead.next.2, r.notes⟩ = _
  cases r.ahead.next.1 <;> rfl

theorem on_note_bind (r : Reader σ) (n : Note) (k : Unit → Descent σ α) :
    (note n >>= k).on r = (k ()).on ⟨r.ahead, r.notes ++ [n]⟩ := rfl

theorem on_putBack_bind (source : σ) (notes : List Note) (token : Token) (k : Unit → Descent σ α) :
    (putBack token >>= k).on ⟨⟨source, none⟩, notes⟩ = (k ()).on ⟨⟨source, some token⟩, notes⟩ := rfl

theorem on_fail_bind (r : Reader σ) (cause : ParseError.Cause) (p : Position) (k : α → Descent σ β) :
    (fail cause p >>= k).on r = (.error (.error (.parse ⟨cause, p⟩)), r) := rfl

end

/-! ## Reading on -/

/-- The outcome of a reading as that of a descent. -/
def Fault.ofOutcome : Except Error Unit → Except Fault Unit
  | .ok ()   => .ok ()
  | .error e => .error (.error e)

variable {σ : Type} [TokenStream σ] {settings : Settings} {state state' : State} {token : Token} {n : Nat}

/-- What a reader comes to that reads on as the grammar does in a state. -/
def resume (settings : Settings) (state : State) (r : Reader σ) : Except Fault Unit × Reader σ :=
  let reading := read settings state r.ahead
  (Fault.ofOutcome reading.outcome, ⟨reading.rest, r.notes ++ reading.notes⟩)

section

variable {source : σ} {notes : List Note}

theorem next_putBack (source : σ) (token : Token) :
    TokenStream.next (⟨source, some token⟩ : Lookahead σ) = (.ok token, ⟨source, none⟩) := rfl

theorem resume_of_end (hk : token.kind = .endOfInput) :
    resume settings state ⟨⟨source, some token⟩, notes⟩ =
      (Fault.ofOutcome (parseOutcome (state.finish token.position).result),
        ⟨⟨source, none⟩, notes ++ (state.finish token.position).notes⟩) := by
  rw [resume, read_of_end (next_putBack source token) hk]

theorem resume_of_reject {e : ParseError} (hk : token.kind ≠ .endOfInput)
    (hmove : (state.advance settings token).result = .error e) :
    resume settings state ⟨⟨source, some token⟩, notes⟩ =
      (.error (.error (.parse e)), ⟨⟨source, none⟩, notes ++ (state.advance settings token).notes⟩) := by
  rw [resume, read_of_reject (next_putBack source token) hk hmove]
  rfl

theorem resume_of_advance (hk : token.kind ≠ .endOfInput)
    (hmove : (state.advance settings token).result = .ok state') :
    resume settings state ⟨⟨source, some token⟩, notes⟩ =
      resume settings state' ⟨⟨source, none⟩, notes ++ (state.advance settings token).notes⟩ := by
  rw [resume, read_of_advance (next_putBack source token) hk hmove, resume, List.append_assoc]

end

/-- From every reader with less than `n` ahead, `m` does what the grammar does in a state. -/
def Reads (settings : Settings) (n : Nat) (m : Descent σ Unit) (state : State) : Prop :=
  ∀ r : Reader σ, r.ahead.size < n → m.on r = resume settings state r

/-- Once it has got a token, `m` does what the grammar does in a state if the token is the next one. -/
def ReadsOn (settings : Settings) (n : Nat) (m : Descent σ Unit) (state : State) (token : Token) : Prop :=
  ∀ (source : σ) (notes : List Note), Lookahead.size ⟨source, some token⟩ < n →
    m.on ⟨⟨source, none⟩, notes⟩ = resume settings state ⟨⟨source, some token⟩, notes⟩

section

variable {m : Descent σ Unit} {x : Note} {i : Nat}

theorem Reads.zero : Reads settings 0 m state := fun _ hr => absurd hr (Nat.not_lt_zero _)

theorem Reads.of_succ (h : Reads settings (n + 1) m state) : Reads settings n m state :=
  fun r hr => h r (Nat.lt_succ_of_lt hr)

theorem ReadsOn.of_succ (h : ReadsOn settings (n + 1) m state token) : ReadsOn settings n m state token :=
  fun source notes hsize => h source notes (Nat.lt_succ_of_lt hsize)

/-- What comes next in a stream is as good as put back. -/
theorem Reads.next {k : Token → Descent σ Unit} (h : ∀ token, ReadsOn settings n (k token) state token) :
    Reads settings n (next >>= k) state := by
  rintro ⟨⟨source, slot⟩, notes⟩ hr
  rw [on_next_bind]
  cases slot with
  | some token => exact h token source notes hr
  | none       =>
    cases hnext : TokenStream.next source with
    | mk item rest =>
    have hahead : Lookahead.next ⟨source, none⟩ = (item, ⟨rest, none⟩) := by rw [Lookahead.next, hnext]
    rw [hahead]
    cases item with
    | error e  =>
      rw [resume, read_of_failure hahead]
      simp [Fault.ofOutcome]
    | ok token =>
      have hsize : Lookahead.size ⟨rest, some token⟩ < n := by
        have hr : TokenStream.size source < n := hr
        by_cases hk : token.kind = .endOfInput
        · rw [Lookahead.size_putBack_endOfInput hk]
          omega
        · rw [Lookahead.size_putBack hk]
          exact Nat.lt_of_le_of_lt (TokenStream.size_next hnext hk) hr
      have hsame : TokenStream.next (⟨source, none⟩ : Lookahead σ) = TokenStream.next ⟨rest, some token⟩ := hahead
      rw [resume, read_congr hsame]
      exact h token rest notes hsize

/-! ### One token -/

/-- The grammar moves on, and so does the descent. -/
theorem ReadsOn.of_advance {m' : Descent σ Unit} {added : List Note} (hk : token.kind ≠ .endOfInput)
    (hmove : state.advance settings token = ⟨added, .ok state'⟩) (h : Reads settings i m state') (hi : n ≤ i + 1)
    (hon : ∀ (source : σ) (notes : List Note),
      m'.on ⟨⟨source, none⟩, notes⟩ = m.on ⟨⟨source, none⟩, notes ++ added⟩) :
    ReadsOn settings n m' state token := by
  intro source notes hsize
  have hsource : TokenStream.size source < i := by
    rw [Lookahead.size_putBack hk] at hsize
    omega
  rw [resume_of_advance hk (congrArg Move.result hmove), hmove, hon]
  exact h ⟨⟨source, none⟩, notes ++ added⟩ hsource

theorem ReadsOn.advance (hk : token.kind ≠ .endOfInput) (hmove : state.advance settings token = goTo state')
    (h : Reads settings i m state') (hi : n ≤ i + 1) : ReadsOn settings n m state token :=
  of_advance hk hmove h hi fun source notes => by rw [List.append_nil]

theorem ReadsOn.advance_note (hk : token.kind ≠ .endOfInput) (hmove : state.advance settings token = ⟨[x], .ok state'⟩)
    (h : Reads settings i m state') (hi : n ≤ i + 1) :
    ReadsOn settings n (note x >>= fun _ => m) state token :=
  of_advance hk hmove h hi fun source notes => on_note_bind ⟨⟨source, none⟩, notes⟩ x fun _ => m

/-- Both stop at an error. -/
theorem ReadsOn.reject {α : Type} {cause : ParseError.Cause} {p : Position} {k : α → Descent σ Unit}
    (hmove : token.kind ≠ .endOfInput → state.advance settings token = Move.reject cause p)
    (hend : token.kind = .endOfInput → state.finish token.position = Move.reject cause p) :
    ReadsOn settings n (fail cause p >>= k) state token := by
  intro source notes _
  rw [on_fail_bind]
  by_cases hk : token.kind = .endOfInput
  · rw [resume_of_end hk, hend hk]
    simp [Move.reject, parseOutcome, Fault.ofOutcome]
  · rw [resume_of_reject hk (congrArg Move.result (hmove hk)), hmove hk]
    simp [Move.reject]

/-! ### Tokens that are put back -/

/-- At a token, `state` notes what is `added` and then does as `state'` does. -/
structure Defers (settings : Settings) (token : Token) (state : State) (added : List Note) (state' : State) : Prop where
  advance : token.kind ≠ .endOfInput → state.advance settings token =
    ⟨added ++ (state'.advance settings token).notes, (state'.advance settings token).result⟩
  finish  : token.kind = .endOfInput → state.finish token.position =
    ⟨added ++ (state'.finish token.position).notes, (state'.finish token.position).result⟩

theorem Defers.of_end {added : List Note} (hk : token.kind = .endOfInput) (hend : state.finish token.position =
      ⟨added ++ (state'.finish token.position).notes, (state'.finish token.position).result⟩) :
    Defers settings token state added state' :=
  ⟨fun hne => absurd hk hne, fun _ => hend⟩

theorem Defers.resume_eq {added : List Note} (h : Defers settings token state added state') (source : σ)
    (notes : List Note) :
    resume settings state ⟨⟨source, some token⟩, notes⟩ =
      resume settings state' ⟨⟨source, some token⟩, notes ++ added⟩ := by
  by_cases hk : token.kind = .endOfInput
  · rw [resume_of_end hk, resume_of_end hk, h.finish hk, List.append_assoc]
  · have hmove := h.advance hk
    cases hresult : (state'.advance settings token).result with
    | error e =>
      rw [resume_of_reject hk (by rw [hmove, hresult]), resume_of_reject hk hresult, hmove, List.append_assoc]
    | ok s    =>
      rw [resume_of_advance hk (by rw [hmove, hresult]), resume_of_advance hk hresult, hmove, List.append_assoc]

/-- The grammar looks at the token in two states at once, and the descent puts it back in between. -/
theorem ReadsOn.of_defers {m' : Descent σ Unit} {added : List Note} (hsame : Defers settings token state added state')
    (h : Reads settings n m state') (hon : ∀ (source : σ) (notes : List Note),
      m'.on ⟨⟨source, none⟩, notes⟩ = m.on ⟨⟨source, some token⟩, notes ++ added⟩) :
    ReadsOn settings n m' state token := by
  intro source notes hsize
  rw [hon, hsame.resume_eq]
  exact h ⟨⟨source, some token⟩, notes ++ added⟩ hsize

theorem ReadsOn.putBack (hsame : Defers settings token state [] state') (h : Reads settings n m state') :
    ReadsOn settings n (putBack token >>= fun _ => m) state token :=
  of_defers hsame h fun source notes => by rw [on_putBack_bind, List.append_nil]

theorem ReadsOn.note_putBack (hsame : Defers settings token state [x] state') (h : Reads settings n m state') :
    ReadsOn settings n (note x >>= fun _ => Descent.putBack token >>= fun _ => m) state token :=
  of_defers hsame h fun source notes => by rw [on_note_bind, on_putBack_bind]

theorem ReadsOn.putBack_note (hsame : Defers settings token state [x] state') (h : Reads settings n m state') :
    ReadsOn settings n (Descent.putBack token >>= fun _ => note x >>= fun _ => m) state token :=
  of_defers hsame h fun source notes => by rw [on_putBack_bind, on_note_bind]

end

/-! ## Terms and lines -/

section

variable {m : Descent σ Unit}

/-- From the token behind on, a line is skipped. -/
theorem skipLine_reads (h : Reads settings n m .statement) :
    Reads settings n (Descent.next >>= fun token => skipLine n token >>= fun _ => m) .skipping := by
  -- The loop is entered again with less ahead, so the induction is on what bounds it, here and in the loops below.
  induction n with
  | zero      => exact Reads.zero
  | succ n ih =>
    refine Reads.next fun token => ?_
    rw [skipLine]
    split
    · rename_i hk
      have hmove : State.skipping.advance settings token = goTo .statement := if_pos hk
      rw [pure_bind]
      exact ReadsOn.advance (by simp [hk]) hmove h.of_succ (Nat.le_refl _)
    · rename_i hk
      exact ReadsOn.putBack (.of_end hk rfl) h
    · rename_i hnewline hend
      have hmove : State.skipping.advance settings token = goTo .skipping := if_neg hnewline
      rw [bind_assoc]
      exact ReadsOn.advance hend hmove (ih h.of_succ) (Nat.le_refl _)

theorem unexpected_readsOn {α : Type} {slot : Slot} {seen : Reference} {expected : List Token.Kind}
    {k : α → Descent σ Unit} (hexpected : seen.expected = expected)
    (hmove : continueReference slot seen token =
      Move.reject (.unexpectedToken token.kind seen.expected) token.position) :
    ReadsOn settings n (unexpected token expected >>= k) (.reference slot seen) token := by
  subst hexpected
  exact ReadsOn.reject (fun _ => hmove) fun hk => by rw [State.finish, hk]

/-- A reference makes a term that may stand in front of a rule. -/
theorem reference_reads {slot : Slot} {k : Term → Descent σ Unit}
    (h : ∀ t : Term, t.isSimple → Reads settings n (k t) (slot.accept t)) :
    Reads settings n (reference >>= k) (.reference slot .dollar) := by
  rw [reference, bind_assoc]
  refine Reads.next fun token => ?_
  split
  · rename_i hk
    have hmove : State.advance settings (.reference slot .dollar) token = goTo (slot.accept .allPrerequisites) := by
      simp [State.advance, continueReference, hk]
    rw [pure_bind]
    exact ReadsOn.advance (by simp [hk]) hmove (h .allPrerequisites rfl) (Nat.le_succ n)
  · rename_i hk
    have hmove : State.advance settings (.reference slot .dollar) token = goTo (.reference slot .opened) := by
      simp [State.advance, continueReference, hk]
    rw [bind_assoc]
    refine ReadsOn.advance (by simp [hk]) hmove (Reads.next fun name => ?_) (Nat.le_succ n)
    by_cases hname : name.kind = .identifier
    · have hmove : State.advance settings (.reference slot .opened) name =
          goTo (.reference slot (.named name.text)) := by
        simp [State.advance, continueReference, hname]
      rw [if_neg (not_not_intro hname), bind_assoc]
      refine ReadsOn.advance (by simp [hname]) hmove (Reads.next fun close => ?_) (Nat.le_succ n)
      by_cases hclose : close.kind = .rightParen
      · have hmove : State.advance settings (.reference slot (.named name.text)) close =
            goTo (slot.accept (.named name.text)) := by
          simp [State.advance, continueReference, hclose]
        rw [if_neg (not_not_intro hclose), pure_bind]
        exact ReadsOn.advance (by simp [hclose]) hmove (h (.named name.text) rfl) (Nat.le_succ n)
      · rw [if_pos hclose]
        exact unexpected_readsOn rfl (by simp [continueReference, hclose])
    · rw [if_pos hname]
      exact unexpected_readsOn rfl (by simp [continueReference, hname])
  · rename_i hless hparen
    refine unexpected_readsOn rfl ?_
    unfold continueReference
    split <;> simp_all

theorem line_reads {rule : Rule} {inRecipe : Bool} {k : List Term → Descent σ Unit}
    (h : ∀ terms, Reads settings n (k terms) (.rule (OpenLine.close ⟨rule, inRecipe, terms⟩))) (terms : List Term) :
    Reads settings n (line n terms >>= k) (.line ⟨rule, inRecipe, terms⟩) := by
  induction n generalizing terms with
  | zero      => exact Reads.zero
  | succ n ih =>
    have hlater (terms : List Term) : Reads settings n (line n terms >>= k) (.line ⟨rule, inRecipe, terms⟩) :=
      ih (fun terms => (h terms).of_succ) terms
    rw [line, bind_assoc]
    refine Reads.next fun token => ?_
    split
    · rename_i hk
      have hmove : State.advance settings (.line ⟨rule, inRecipe, terms⟩) token =
          goTo (.rule (OpenLine.close ⟨rule, inRecipe, terms⟩)) := by
        simp [State.advance, continueLine, hk]
      rw [pure_bind]
      exact ReadsOn.advance (by simp [hk]) hmove (h terms).of_succ (Nat.le_refl _)
    · rename_i hk
      rw [bind_assoc]
      simp only [pure_bind]
      exact ReadsOn.putBack (.of_end hk rfl) (h terms)
    · rename_i hk
      have hmove : State.advance settings (.line ⟨rule, inRecipe, terms⟩) token =
          goTo (.line ⟨rule, inRecipe, terms⟩) := by
        simp [State.advance, continueLine, hk]
      exact ReadsOn.advance (by simp [hk]) hmove (hlater terms) (Nat.le_refl _)
    · rename_i hk
      have hmove : State.advance settings (.line ⟨rule, inRecipe, terms⟩) token =
          goTo (.line ⟨rule, inRecipe, terms ++ [.identifier token.text]⟩) := by
        simp [State.advance, continueLine, hk, OpenLine.add]
      rw [term, hk, bind_assoc, pure_bind]
      exact ReadsOn.advance (by simp [hk]) hmove (hlater _) (Nat.le_refl _)
    · rename_i hk
      have hmove : State.advance settings (.line ⟨rule, inRecipe, terms⟩) token =
          goTo (.reference (.line ⟨rule, inRecipe, terms⟩) .dollar) := by
        simp [State.advance, continueLine, hk]
      rw [term, hk, bind_assoc]
      exact ReadsOn.advance (by simp [hk]) hmove (reference_reads fun t _ => hlater (terms ++ [t])) (Nat.le_refl _)
    · exact ReadsOn.reject
        (fun _ => by simp [State.advance, continueLine])
        (fun hk => absurd hk ‹_›)

theorem recipe_reads (rule : Rule) (h : Reads settings n m .statement) (lines : List RecipeLine) :
    Reads settings n (recipe n lines >>= fun lines => note (.rule { rule with recipe := lines }) >>= fun _ => m)
      (.rule { rule with recipe := lines }) := by
  induction n generalizing lines with
  | zero      => exact Reads.zero
  | succ n ih =>
    rw [recipe, bind_assoc]
    refine Reads.next fun token => ?_
    by_cases hk : token.kind = .tab
    · have hmove : State.advance settings (.rule { rule with recipe := lines }) token =
          goTo (.line ⟨{ rule with recipe := lines }, true, []⟩) := if_pos hk
      rw [if_pos hk, bind_assoc]
      refine ReadsOn.advance (by simp [hk]) hmove (line_reads (fun terms => ?_) []) (Nat.le_refl _)
      exact ih h.of_succ (lines ++ [terms])
    · rw [if_neg hk, bind_assoc]
      simp only [pure_bind]
      have hsame : Defers settings token (.rule { rule with recipe := lines })
          [.rule { rule with recipe := lines }] .statement :=
        ⟨fun _ => if_neg hk, fun _ => rfl⟩
      exact ReadsOn.putBack_note hsame h

theorem rule_reads {target : Term} (start : Position) (hs : target.isSimple) (h : Reads settings n m .statement) :
    Reads settings n (rule n target start >>= fun r => note (.rule r) >>= fun _ => m)
      (.line ⟨.ofTarget target, false, []⟩) := by
  rw [rule, if_pos hs, bind_assoc]
  refine line_reads (fun terms => ?_) []
  rw [bind_assoc]
  exact recipe_reads ⟨target, terms, [], false⟩ h []

end

/-! ## Statements -/

section

variable {m : Descent σ Unit}

/-- Spaces change nothing in a state that passes over them. -/
theorem skipSpaces_reads {k : Token → Descent σ Unit}
    (hspace : ∀ token : Token, token.kind = .space → state.advance settings token = goTo state)
    (h : ∀ token : Token, token.kind ≠ .space → ReadsOn settings n (k token) state token) :
    Reads settings n (skipSpaces n >>= k) state := by
  induction n with
  | zero      => exact Reads.zero
  | succ n ih =>
    rw [skipSpaces, bind_assoc]
    refine Reads.next fun token => ?_
    by_cases hk : token.kind = .space
    · rw [if_pos hk]
      exact ReadsOn.advance (by simp [hk]) (hspace token hk) (ih fun t ht => (h t ht).of_succ) (Nat.le_refl _)
    · rw [if_neg hk, pure_bind]
      exact h token hk

theorem assignment_readsOn {target : Term} {start : Position} (hk : token.kind = .equals)
    (h : Reads settings n m .statement) :
    ReadsOn settings n (assignment settings n target start >>= fun _ => m) (.front target start) token := by
  rw [assignment]
  by_cases hstrict : settings.strict
  · rw [if_pos hstrict]
    exact ReadsOn.reject (fun _ => by simp [State.advance, continueFront, hk, hstrict])
      (fun hend => by simp [hk] at hend)
  · have hmove : State.advance settings (.front target start) token =
        ⟨[.event (.assignmentSkipped (target.name?.getD "") start.row)], .ok .skipping⟩ := by
      simp [State.advance, continueFront, hk, hstrict, report, goTo]
    rw [if_neg hstrict, bind_assoc]
    simp only [bind_assoc]
    exact ReadsOn.advance_note (by simp [hk]) hmove (skipLine_reads h) (Nat.le_succ n)

theorem afterTerm_readsOn {target : Term} {start : Position} (hs : target.isSimple) (hk : token.kind ≠ .space)
    (h : Reads settings n m .statement) :
    ReadsOn settings n (afterTerm settings n target start token >>= fun _ => m) (.front target start) token := by
  rw [afterTerm]
  split
  · rename_i hcolon
    have hmove : State.advance settings (.front target start) token = goTo (.line ⟨.ofTarget target, false, []⟩) := by
      simp [State.advance, continueFront, hcolon]
    rw [bind_assoc]
    exact ReadsOn.advance (by simp [hcolon]) hmove (rule_reads start hs h) (Nat.le_succ n)
  · exact assignment_readsOn ‹_› h
  · rename_i hhash
    have hmove : State.advance settings (.front target start) token = goTo .skipping := by
      simp [State.advance, continueFront, hhash]
    rw [skipLine, hhash, bind_assoc]
    exact ReadsOn.advance (by simp [hhash]) hmove (skipLine_reads h) (Nat.le_succ n)
  · rename_i hend
    rw [bind_assoc]
    exact ReadsOn.note_putBack (.of_end hend rfl) h
  · rename_i hcolon hequals hhash hend
    have hmove : State.advance settings (.front target start) token =
        ⟨[.event (.termDropped token.kind token.position)], .ok .statement⟩ := by
      simp [State.advance, continueFront, report, goTo]
    exact ReadsOn.advance_note hend hmove h (Nat.le_succ n)

theorem afterLiteral_readsOn {literal : Token} (hk : token.kind ≠ .space) (h : Reads settings n m .statement) :
    ReadsOn settings n (afterLiteral literal token >>= fun _ => m) (.literal literal) token := by
  rw [afterLiteral]
  by_cases hcolon : token.kind = .colon
  · rw [if_pos hcolon]
    exact ReadsOn.reject (fun _ => by simp [State.advance, continueLiteral, hcolon])
      (fun hend => by simp [hcolon] at hend)
  · have hsame : Defers settings token (.literal literal)
        [.event (.literalIgnored literal.kind literal.position.row)] .statement :=
      ⟨fun _ => by simp [State.advance, continueLiteral, report], fun _ => rfl⟩
    rw [if_neg hcolon, bind_assoc]
    exact ReadsOn.note_putBack hsame h

theorem term_readsOn (hk : token.kind = .identifier ∨ token.kind = .dollar) (h : Reads settings n m .statement) :
    ReadsOn settings (n + 1) (term token >>= fun target => skipSpaces n >>= fun token' =>
      afterTerm settings n target token.position token' >>= fun _ => m) .statement token := by
  have hfront (target : Term) (hs : target.isSimple) : Reads settings n
      (skipSpaces n >>= fun token' => afterTerm settings n target token.position token' >>= fun _ => m)
      (.front target token.position) :=
    skipSpaces_reads (fun t ht => by simp [State.advance, continueFront, ht]) fun t ht => afterTerm_readsOn hs ht h
  rcases hk with hk | hk
  · have hmove : State.statement.advance settings token = goTo (.front (.identifier token.text) token.position) := by
      simp [State.advance, startStatement, hk]
    rw [term, hk, pure_bind]
    exact ReadsOn.advance (by simp [hk]) hmove (hfront _ rfl) (Nat.le_refl _)
  · have hmove : State.statement.advance settings token = goTo (.reference (.front token.position) .dollar) := by
      simp [State.advance, startStatement, hk]
    rw [term, hk]
    exact ReadsOn.advance (by simp [hk]) hmove (reference_reads hfront) (Nat.le_refl _)

theorem literal_readsOn (hmove : State.statement.advance settings token = goTo (.literal token))
    (hk : token.kind ≠ .endOfInput) (h : Reads settings n m .statement) :
    ReadsOn settings (n + 1) (skipSpaces n >>= fun token' => afterLiteral token token' >>= fun _ => m)
      .statement token :=
  ReadsOn.advance hk hmove
    (skipSpaces_reads (fun t ht => by simp [State.advance, continueLiteral, ht]) fun t ht => afterLiteral_readsOn ht h)
    (Nat.le_refl _)

theorem statement_readsOn (hk : token.kind ≠ .endOfInput) (h : Reads settings n m .statement) :
    ReadsOn settings (n + 1) (statement settings n token >>= fun _ => m) .statement token := by
  rw [statement]
  split
  · rename_i hnewline
    have hmove : State.statement.advance settings token = goTo .statement := by
      simp [State.advance, startStatement, hnewline]
    rw [pure_bind]
    exact ReadsOn.advance hk hmove h (Nat.le_refl _)
  · simp only [bind_assoc]
    exact term_readsOn (.inl ‹_›) h
  · simp only [bind_assoc]
    exact term_readsOn (.inr ‹_›) h
  case h_4 hliteral | h_5 hliteral | h_6 hliteral =>
    rw [bind_assoc]
    exact literal_readsOn (by simp [State.advance, startStatement, hliteral]) hk h
  · rename_i hhash
    have hmove : State.statement.advance settings token =
        ⟨[.event (.commentIgnored token.position.row)], .ok .skipping⟩ := by
      simp [State.advance, startStatement, hhash, report, goTo]
    rw [skipLine, hhash]
    simp only [bind_assoc]
    exact ReadsOn.advance_note hk hmove (skipLine_reads h) (Nat.le_refl _)
  · have hmove : State.statement.advance settings token =
        ⟨[.event (.tokenIgnored token.kind token.position)], .ok .statement⟩ := by
      simp [State.advance, startStatement, report, goTo]
    exact ReadsOn.advance_note hk hmove h (Nat.le_refl _)

theorem statements_reads (settings : Settings) (n : Nat) :
    Reads settings n (statements settings n : Descent σ Unit) .statement := by
  induction n with
  | zero      => exact Reads.zero
  | succ n ih =>
    rw [statements]
    refine Reads.next fun token => ?_
    by_cases hk : token.kind = .endOfInput
    · intro source notes _
      rw [if_pos hk, resume_of_end hk]
      simp [State.finish, done, parseOutcome, Fault.ofOutcome]
      rfl
    · rw [if_neg hk]
      exact statement_readsOn hk ih

end

end Descent

/-- **A descent does what the grammar does**, in as many rounds as there is ahead, and one more. -/
theorem descend_eq {σ : Type} [TokenStream σ] (settings : Settings) {source : σ} {n : Nat}
    (hn : TokenStream.size source < n) :
    descend settings n source = Descent.resume settings .statement ⟨⟨source, none⟩, []⟩ :=
  Descent.statements_reads settings n ⟨⟨source, none⟩, []⟩ hn

end RuleFile
