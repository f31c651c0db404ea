import Mathlib
import RuleFile.Proofs.Runs
/-!
# Strict settings

Under strict settings an assignment is an error, under lenient ones a warning.  Nothing else that a token does depends
on them (`advance_strict`), so two readings of one stream go together up to the first assignment (`read_strict`).
There the strict one stops with what has been completed so far, whatever becomes of the lenient one (`build_strict`).
-/
namespace RuleFile

open Grammar

namespace Grammar

open Move

/-- The warning that an assignment is skipped. -/
def Note.isAssignment : Note → Bool
  | event (.assignmentSkipped _ _) => true
  | _                              => false

/-! ## One token -/

theorem isAssignment_eq_false_of_mem_startStatement {token : Token} :
    ∀ note ∈ (startStatement token).notes, note.isAssignment = false := by
  unfold startStatement
  split <;> simp [goTo, report, Note.isAssignment]

theorem isAssignment_eq_false_of_mem_continueReference {slot : Slot} {seen : Reference} {token : Token} :
    ∀ note ∈ (continueReference slot seen token).notes, note.isAssignment = false := by
  unfold continueReference
  split <;> simp [goTo, reject]

theorem isAssignment_eq_false_of_mem_continueLiteral {literal token : Token} :
    ∀ note ∈ (continueLiteral literal token).notes, note.isAssignment = false := by
  unfold continueLiteral
  split
  · simp [goTo]
  · simp [reject]
  · exact List.forall_mem_cons.2 ⟨rfl, isAssignment_eq_false_of_mem_startStatement⟩

theorem isAssignment_eq_false_of_mem_continueLine {l : OpenLine} {token : Token} :
    ∀ note ∈ (continueLine l token).notes, note.isAssignment = false := by
  unfold continueLine
  split <;> simp [goTo, reject]

theorem isAssignment_eq_false_of_mem_continueRule {rule : Rule} {token : Token} :
    ∀ note ∈ (continueRule rule token).notes, note.isAssignment = false := by
  unfold continueRule
  split
  · simp [goTo]
  · exact List.forall_mem_cons.2 ⟨rfl, isAssignment_eq_false_of_mem_startStatement⟩

theorem isAssignment_eq_false_of_mem_finish {state : State} {p : Position} :
    ∀ note ∈ (state.finish p).notes, note.isAssignment = false := by
  cases state <;> simp [State.finish, done, reject, report, complete, Note.isAssignment]

section

variable {lenient strict : Settings}

/-- **A token does the same under strict settings**, unless it makes its line an assignment. -/
theorem advance_strict (hlenient : lenient.strict = false) (hstrict : strict.strict = true) (state : State)
    (token : Token) :
    (state.advance strict token = state.advance lenient token ∧
      ∀ note ∈ (state.advance lenient token).notes, note.isAssignment = false) ∨
    ∃ name start, state.advance strict token = reject (.unsupportedAssignment name) start ∧
      state.advance lenient token = (goTo .skipping).report (.assignmentSkipped name start.row) := by
  cases state with
  | statement           => exact .inl ⟨rfl, isAssignment_eq_false_of_mem_startStatement⟩
  | reference slot seen => exact .inl ⟨rfl, isAssignment_eq_false_of_mem_continueReference⟩
  | literal t           => exact .inl ⟨rfl, isAssignment_eq_false_of_mem_continueLiteral⟩
  | line l              => exact .inl ⟨rfl, isAssignment_eq_false_of_mem_continueLine⟩
  | rule r              => exact .inl ⟨rfl, isAssignment_eq_false_of_mem_continueRule⟩
  | skipping            =>
    refine .inl ⟨rfl, ?_⟩
    simp only [State.advance]
    split <;> simp [goTo]
  | front term start    =>
    simp only [State.advance, continueFront, hlenient, hstrict]
    split
    · simp [goTo]
    · simp [goTo]
    · simp [goTo]
    · exact .inr ⟨_, start, rfl, rfl⟩
    · simp [goTo, report, Note.isAssignment]

end
end Grammar

/-! ## Readings -/

section

variable {σ : Type} [TokenStream σ] {lenient strict : Settings}

/-- How the strict reading of a stream follows the lenient one: to its end, or up to the first assignment. -/
inductive Reading.Follows (r : Reading σ) : Reading σ → Prop where
  | whole (hnone : ∀ note ∈ r.notes, note.isAssignment = false) : Follows r r
  | stopped {later : List Note} {name : String} {start : Position} {rest : σ} {notes : List Note}
      (hnotes : r.notes = notes ++ .event (.assignmentSkipped name start.row) :: later)
      (hnone : ∀ note ∈ notes, note.isAssignment = false) :
      Follows r ⟨notes, .error (.parse ⟨.unsupportedAssignment name, start⟩), rest⟩

/-- **The strict reading follows the lenient one.** -/
theorem read_strict (hlenient : lenient.strict = false) (hstrict : strict.strict = true) (state : State) (source : σ) :
    (read lenient state source).Follows (read strict state source) := by
  fun_induction read lenient state source with
  | case1 state source e rest hnext =>
    rw [read_of_failure hnext]
    exact .whole fun _ hn => (List.not_mem_nil hn).elim
  | case2 state source token rest hnext hk =>
    rw [read_of_end hnext hk]
    exact .whole isAssignment_eq_false_of_mem_finish
  | case3 state source token rest hnext hk move e hmove =>
    rcases advance_strict hlenient hstrict state token with ⟨hsame, hnone⟩ | ⟨name, start, -, hskip⟩
    · have hreject : (state.advance strict token).result = .error e := by rw [hsame]; exact hmove
      rw [read_of_reject hnext hk hreject, hsame]
      exact .whole hnone
    · have hskips : (Except.ok State.skipping : Except ParseError State) = .error e := by
        rw [← hmove]
        exact congrArg Move.result hskip.symm
      cases hskips
  | case4 state source token rest hnext hk move state' hmove later ih =>
    rcases advance_strict hlenient hstrict state token with ⟨hsame, hnone⟩ | ⟨name, start, hreject, hskip⟩
    · have hadvance : (state.advance strict token).result = .ok state' := by rw [hsame]; exact hmove
      rw [read_of_advance hnext hk hadvance, hsame]
      generalize read strict state' rest = r at ih ⊢
      cases ih with
      | whole hlater => exact .whole (List.forall_mem_append.2 ⟨hnone, hlater⟩)
      | @stopped behind name start rest notes hnotes hbefore =>
        have hboth : move.notes ++ later.notes =
            (move.notes ++ notes) ++ .event (.assignmentSkipped name start.row) :: behind := by
          rw [List.append_assoc, ← hnotes]
        exact .stopped hboth (List.forall_mem_append.2 ⟨hnone, hbefore⟩)
    · rw [read_of_reject hnext hk (congrArg Move.result hreject), hreject]
      exact .stopped (congrArg (·.notes ++ later.notes) hskip) fun _ hn => (List.not_mem_nil hn).elim

/-- **Strict settings refine lenient ones.**  Where the lenient build skips no assignment, the strict one is the same.
Where it does, the strict build fails at the first of them and has by then added the rules that the lenient one had. -/
theorem build_strict (hlenient : lenient.strict = false) (hstrict : strict.strict = true) (program : Program)
    (source : σ) :
    ((program.build lenient source).notes.find? Note.isAssignment = none →
      program.build strict source = program.build lenient source) ∧
    (∀ name row,
      (program.build lenient source).notes.find? Note.isAssignment = some (.event (.assignmentSkipped name row)) →
      (∃ column, (program.build strict source).outcome =
        .error (.parse ⟨.unsupportedAssignment name, ⟨row, column⟩⟩)) ∧
      (program.build strict source).program = program.addRules (Note.rules
        ((program.build lenient source).notes.takeWhile (!·.isAssignment)))) ∧
    ∀ p, (program.build strict source).result = .ok p → (program.build lenient source).result = .ok p := by
  have hfollows := read_strict hlenient hstrict .statement source
  unfold Program.build
  generalize read lenient .statement source = r at hfollows ⊢
  generalize read strict .statement source = r' at hfollows ⊢
  cases hfollows with
  | whole hnone =>
    have hfind : r.notes.find? Note.isAssignment = none :=
      List.find?_eq_none.2 fun note hnote => Bool.eq_false_iff.1 (hnone note hnote)
    refine ⟨fun _ => rfl, fun name row h => ?_, fun _ h => h⟩
    rw [hfind] at h
    cases h
  | @stopped later name start rest notes hnotes hnone =>
    have hfind : r.notes.find? Note.isAssignment = some (.event (.assignmentSkipped name start.row)) := by
      rw [hnotes, List.find?_append, List.find?_eq_none.2 fun note hnote => Bool.eq_false_iff.1 (hnone note hnote)]
      rfl
    have hbefore : r.notes.takeWhile (!·.isAssignment) = notes := by
      rw [hnotes, List.takeWhile_append_of_pos fun note hnote => by rw [hnone note hnote]; rfl]
      exact List.append_nil notes
    refine ⟨fun h => ?_, fun name' row h => ?_, fun p h => (by cases h)⟩
    · rw [hfind] at h
      cases h
    · rw [hfind] at h
      cases h
      exact ⟨⟨start.column, rfl⟩, by rw [hbefore]⟩

end

/-- An assignment behind a rule and a number that is ignored; the lenient build goes on to an error of its own.  And
two rules, which both builds add. -/
theorem build_strict_numberedTarget :
    (parseText {} "a:\n1 b = c\n1:").outcome = .error (.parse ⟨.invalidTarget "1", ⟨2, 0⟩⟩) ∧
    (∃ column, (parseText ⟨true, ""⟩ "a:\n1 b = c\n1:").outcome =
      .error (.parse ⟨.unsupportedAssignment "b", ⟨1, column⟩⟩)) ∧
    (parseText ⟨true, ""⟩ "a:\n1 b = c\n1:").program = Program.empty.addRule (.named "a") ∧
    parseText ⟨true, ""⟩ "a:b\nc:" = parseText {} "a:b\nc:" ∧
    (parseText {} "a:b\nc:").result =
      .ok ((Program.empty.addRule ((Rule.named "a").prerequisite "b")).addRule (.named "c")) := by
  have hfind : (parseText {} "a:\n1 b = c\n1:").notes.find? Note.isAssignment =
      some (.event (.assignmentSkipped "b" 1)) := by cbv
  have hbefore : Note.rules ((parseText {} "a:\n1 b = c\n1:").notes.takeWhile (!·.isAssignment)) = [.named "a"] := by
    cbv
  have hnone : (parseText {} "a:b\nc:").notes.find? Note.isAssignment = none := by cbv
  have hrules : (parseText ⟨true, ""⟩ "a:b\nc:").result =
      .ok ((Program.empty.addRule ((Rule.named "a").prerequisite "b")).addRule (.named "c")) := by cbv
  have hlenient : ({} : Settings).strict = false := rfl
  have hstrict : (⟨true, ""⟩ : Settings).strict = true := rfl
  obtain ⟨-, hstops, -⟩ := build_strict hlenient hstrict .empty (Scanner.ofText "a:\n1 b = c\n1:")
  obtain ⟨hsame, -, hok⟩ := build_strict hlenient hstrict .empty (Scanner.ofText "a:b\nc:")
  obtain ⟨houtcome, hprogram⟩ := hstops "b" 1 hfind
  refine ⟨by cbv, houtcome, ?_, hsame hnone, hok _ hrules⟩
  exact hprogram.trans (congrArg Program.empty.addRules hbefore)

end RuleFile
