import Mathlib
import RuleFile.CommandLine.Run
import RuleFile.Proofs.ReadBack
/-!
# What a build does to a program

A build adds rules behind the statements of a program and changes nothing else, whether it comes to the end of its
source or not.  Its rules are made of identifiers and references only (`build_extends`).  Expansion fails for want of
that alone, so no text can make it fail, and the tool never has to tell of such an error.
-/
namespace RuleFile

open Grammar

/-- A later program has rules made of names such that `P` behind the statements of an earlier one, and all else as it
was. -/
def Program.ExtendedBy (P : String → Prop) (program later : Program) : Prop :=
  later.symbols = program.symbols ∧ ∃ rules : List Rule,
    later.statements = program.statements ++ rules.map .rule ∧ ∀ r ∈ rules, r.IsRead P

/-! ## Errors -/

/-- Reading tells of no error of expansion. -/
theorem outcome_read_ne_expand {σ : Type} [TokenStream σ] (settings : Settings) (state : State) (source : σ)
    (e : ExpandError) : (read settings state source).outcome ≠ .error (.expand e) := by
  intro h
  fun_induction read settings state source with
  | case1 state source error rest hnext                     => cases h
  | case2 state source token rest hnext hk move             => cases hmove : move.result <;> rw [hmove] at h <;> cases h
  | case3 state source token rest hnext hk move error hmove => cases h
  | case4 state source token rest hnext hk move state' hmove later ih => exact ih h

/-! ## Expansion of what was read -/

/-- What is read from a text can be expanded. -/
theorem outcome_expand_parseText (settings later : Settings) (text : String) :
    ((parseText settings text).program.expand later).outcome = .ok () :=
  (expand_addRules (fun r hr => (isWritable_of_parseText settings text r hr).isSimple) later).1

theorem CommandLine.Options.program_ne_expand (options : Options) (text : String) (e : ExpandError) :
    (options.program text).1 ≠ .error (.expand e) := by
  have hread : (parseText options.settings text).outcome ≠ .error (.expand e) :=
    outcome_read_ne_expand options.settings .statement (Scanner.ofText text) e
  have hexpand := outcome_expand_parseText options.settings options.settings text
  cases houtcome : (parseText options.settings text).outcome with
  | error error =>
    intro h
    simp only [Options.program, houtcome, Except.error.injEq] at h
    exact hread (houtcome.trans (congrArg Except.error h))
  | ok =>
    cases hno : options.noExpand with
    | true  => simp [Options.program, houtcome, hno]
    | false => simp [Options.program, houtcome, hno, hexpand]

/-! ## Builds -/

/-- **A build adds rules of identifiers and references, and does nothing else**; those of a text are made of names.  So
what was read from a text can be expanded, with any separator. -/
theorem build_extends (program : Program) (settings : Settings) :
    (∀ source : TokenList, program.ExtendedBy (fun _ => True) (program.build settings source).program) ∧
    (∀ source : Scanner,
      program.ExtendedBy (fun name => isName name.toList = true) (program.build settings source).program) ∧
    (∀ text p, (parseText settings text).result = .ok p → ∀ later : Settings, (p.expand later).outcome = .ok ()) ∧
    ∀ (options : CommandLine.Options) (text : String) (e : ExpandError),
      (options.program text).1 ≠ .error (.expand e) := by
  refine ⟨fun source => ⟨rfl, _, rfl, ?_⟩, fun source => ⟨rfl, _, rfl, ?_⟩, fun text p h later => ?_, ?_⟩
  · exact isRead_of_mem_read (fun _ _ => trivial) isRead_statement source
  · exact isRead_of_mem_read isName_of_next isRead_statement source
  · have h : (read settings .statement (Scanner.ofText text)).account.result .empty = .ok p := h
    obtain ⟨-, rfl⟩ := Account.result_eq_ok.1 h
    exact outcome_expand_parseText settings later text
  · exact CommandLine.Options.program_ne_expand

/-- A program with an assignment, a rule and a symbol. -/
def begun : Program :=
  ⟨[.assignment (.identifier "x") [.command []], .rule (Rule.ofTarget (.command []))], Symbols.empty.define "$^" "y"⟩

/-- What `$<:b $(c)` is read as, with `$<` in a line of its recipe. -/
def referring : Rule := ⟨.allPrerequisites, [.identifier "b", .named "c"], [[.allPrerequisites]], false⟩

set_option maxRecDepth 1000 in
/-- A build that fails behind a rule, and one from tokens that no text has; and what a text is read as is expanded. -/
theorem build_extends_begun :
    begun.ExtendedBy (fun name => isName name.toList = true)
      (begun.build {} (Scanner.ofText "$<:b $(c)\n\t$<\n1^")).program ∧
    (begun.build {} (Scanner.ofText "$<:b $(c)\n\t$<\n1^")).program.statements =
      begun.statements ++ [.rule referring] ∧
    begun.ExtendedBy (fun _ => True) (begun.build {} (TokenList.ofTokens
      [⟨.dollar, "", 0, ⟨7, 7⟩⟩, ⟨.leftParen, "", 0, ⟨0, 0⟩⟩, ⟨.identifier, "$^", 0, ⟨0, 0⟩⟩])).program ∧
    ((Program.empty.addRule referring).expand ⟨false, ", "⟩).outcome = .ok () := by
  have hread : (parseText {} "$<:b $(c)\n\t$<\n").result = .ok (Program.empty.addRule referring) := by cbv
  have hrules : Note.rules (parseText {} "$<:b $(c)\n\t$<\n1^").notes = [referring] := by cbv
  obtain ⟨hlist, htext, hexpand, -⟩ := build_extends begun {}
  refine ⟨htext _, ?_, hlist _, hexpand _ _ hread _⟩
  exact congrArg (fun rules : List Rule => begun.statements ++ rules.map .rule) hrules

end RuleFile
