import RuleFile.Expansion
/-!
# Expanding again

Expansion writes three things: the values of references to all prerequisites, the mark of a rule, and one symbol.  It
reads none of them.  So whatever an expansion has left behind, even one that stopped halfway, the next writes over it,
and a program that has been expanded before expands just as it would have (`Program.expand_expand`).
-/
namespace RuleFile

/-! ## Recipes -/

theorem Term.fill_fill (value later : String) (t : Term) : (t.fill value).fill later = t.fill later := by
  cases t with
  | reference name old => by_cases h : name = allPrerequisitesName <;> simp [fill, h]
  | _                  => rfl

namespace Rule

/-- A line that has been filled is filled anew, and as far as before. -/
theorem fillLine_again (later : String) {value : String} : ∀ {line line' : RecipeLine} {whole : Bool},
    fillLine value line = (line', whole) →
      ∃ line'', fillLine later line = (line'', whole) ∧ fillLine later line' = (line'', whole)
  | [],                          _, _, h => by
    cases h
    exact ⟨[], rfl, rfl⟩
  | .command terms :: rest,      _, _, h => by
    cases h
    exact ⟨.command terms :: rest, rfl, rfl⟩
  | .identifier name :: rest,    _, _, h => by
    cases hrest : fillLine value rest with
    | mk rest' whole =>
    obtain ⟨rest'', hfirst, hagain⟩ := fillLine_again later hrest
    simp only [fillLine, hrest, Prod.mk.injEq] at h
    obtain ⟨rfl, rfl⟩ := h
    exact ⟨.identifier name :: rest'', by simp only [fillLine, Term.fill, hfirst],
      by simp only [fillLine, Term.fill, hagain]⟩
  | .reference name old :: rest, _, _, h => by
    cases hrest : fillLine value rest with
    | mk rest' whole =>
    obtain ⟨rest'', hfirst, hagain⟩ := fillLine_again later hrest
    simp only [fillLine, hrest, Prod.mk.injEq] at h
    obtain ⟨rfl, rfl⟩ := h
    have hfill := Term.fill_fill value later (.reference name old)
    refine ⟨(Term.reference name old).fill later :: rest'', by simp only [fillLine, hfirst], ?_⟩
    rw [← hfill]
    simp only [fillLine, Term.fill, hagain]

/-- A recipe that has been filled is filled anew, and as far as before. -/
theorem fillRecipe_again (later : String) {value : String} : ∀ {recipe recipe' : List RecipeLine} {whole : Bool},
    fillRecipe value recipe = (recipe', whole) →
      ∃ recipe'', fillRecipe later recipe = (recipe'', whole) ∧ fillRecipe later recipe' = (recipe'', whole)
  | [],           _, _, h => by
    cases h
    exact ⟨[], rfl, rfl⟩
  | line :: rest, _, _, h => by
    cases hline : fillLine value line with
    | mk line' wholeLine =>
    obtain ⟨line'', hfirst, hagain⟩ := fillLine_again later hline
    cases wholeLine with
    | false =>
      simp only [fillRecipe, hline, Prod.mk.injEq] at h
      obtain ⟨rfl, rfl⟩ := h
      exact ⟨line'' :: rest, by simp only [fillRecipe, hfirst], by simp only [fillRecipe, hagain]⟩
    | true =>
      cases hrest : fillRecipe value rest with
      | mk rest' whole =>
      obtain ⟨rest'', hfirsts, hagains⟩ := fillRecipe_again later hrest
      simp only [fillRecipe, hline, hrest, Prod.mk.injEq] at h
      obtain ⟨rfl, rfl⟩ := h
      exact ⟨line'' :: rest'', by simp only [fillRecipe, hfirst, hfirsts], by simp only [fillRecipe, hagain, hagains]⟩

/-! ## Rules -/

section

variable {rule : Rule} {separator : String} {names : List String} {recipe : List RecipeLine}

theorem expand_of_none (h : prerequisiteNames? rule.prerequisites = none) :
    rule.expand separator = (rule, .error ⟨.unexpectedPrerequisite, rule.errorName⟩) := by
  rw [expand, h]

theorem expand_of_stopped (h : prerequisiteNames? rule.prerequisites = some names)
    (hrecipe : fillRecipe (separator.intercalate names) rule.recipe = (recipe, false)) :
    rule.expand separator = ({ rule with recipe }, .error ⟨.unexpectedTerm, rule.errorName⟩) := by
  rw [expand, h]
  simp only [hrecipe]

theorem expand_of_filled (h : prerequisiteNames? rule.prerequisites = some names)
    (hrecipe : fillRecipe (separator.intercalate names) rule.recipe = (recipe, true)) :
    rule.expand separator = ({ rule with recipe, expanded := true }, .ok (separator.intercalate names)) := by
  rw [expand, h]
  simp only [hrecipe]

end

/-- **A rule that has been expanded is expanded anew**, and fails if it did before. -/
theorem expand_again (separator later : String) (rule : Rule) :
    (∃ rule' rule'' e, rule.expand separator = (rule', .error e) ∧
      rule.expand later = (rule'', .error e) ∧ rule'.expand later = (rule'', .error e)) ∨
    ∃ rule' rule'' value value', rule.expand separator = (rule', .ok value) ∧
      rule.expand later = (rule'', .ok value') ∧ rule'.expand later = (rule'', .ok value') ∧
      rule'.target = rule.target := by
  cases hnames : prerequisiteNames? rule.prerequisites with
  | none       => exact .inl ⟨_, _, _, expand_of_none hnames, expand_of_none hnames, expand_of_none hnames⟩
  | some names =>
    cases hrecipe : fillRecipe (separator.intercalate names) rule.recipe with
    | mk recipe whole =>
    obtain ⟨recipe', hfirst, hagain⟩ := fillRecipe_again (later.intercalate names) hrecipe
    cases whole with
    | false =>
      left
      exact ⟨{ rule with recipe }, { rule with recipe := recipe' }, _, expand_of_stopped hnames hrecipe,
        expand_of_stopped hnames hfirst, expand_of_stopped hnames hagain⟩
    | true =>
      right
      exact ⟨{ rule with recipe, expanded := true }, { rule with recipe := recipe', expanded := true }, _, _,
        expand_of_filled hnames hrecipe, expand_of_filled hnames hfirst, expand_of_filled hnames hagain, rfl⟩

end Rule

/-! ## Programs -/

section

variable {separator : String} {rule rule' : Rule} {rest : List Statement} {symbols : Symbols}

theorem expandStatements_of_error {e : ExpandError} (h : rule.expand separator = (rule', .error e)) :
    expandStatements separator (.rule rule :: rest) symbols = ⟨⟨.rule rule' :: rest, symbols⟩, [], .error e⟩ := by
  rw [expandStatements, h]

theorem expandStatements_of_ok {value : String} (h : rule.expand separator = (rule', .ok value)) :
    expandStatements separator (.rule rule :: rest) symbols =
      (expandStatements separator rest (symbols.define Term.allPrerequisitesName value)).cons (.rule rule')
        (.ruleExpanded rule.target.value value) := by
  rw [expandStatements, h]

end

/-- Expansion defines one symbol, so a definition of this one afterwards leaves nothing of it. -/
theorem define_symbols_expandStatements (separator value : String) : ∀ (statements : List Statement)
    (symbols : Symbols),
    (expandStatements separator statements symbols).program.symbols.define Term.allPrerequisitesName value =
      symbols.define Term.allPrerequisitesName value
  | [],                             _       => rfl
  | .assignment name terms :: rest, symbols => define_symbols_expandStatements separator value rest symbols
  | .rule rule :: rest,             symbols => by
    cases hexpand : rule.expand separator with
    | mk rule' result =>
    cases result with
    | error e  => rw [expandStatements_of_error hexpand]
    | ok first =>
      rw [expandStatements_of_ok hexpand]
      have hrest := define_symbols_expandStatements separator value rest
        (symbols.define Term.allPrerequisitesName first)
      exact hrest.trans (symbols.define_define Term.allPrerequisitesName first value)

/-- Statements that have been expanded expand as they would have, whatever the symbols were at that time. -/
theorem expandStatements_statements (separator later : String) : ∀ (statements : List Statement)
    (before symbols : Symbols),
    expandStatements later (expandStatements separator statements before).program.statements symbols =
      expandStatements later statements symbols
  | [],                             _,      _       => rfl
  | .assignment name terms :: rest, before, symbols =>
    congrArg (Expansion.cons (.assignment name terms) .assignmentNotExpanded)
      (expandStatements_statements separator later rest before symbols)
  | .rule rule :: rest,             before, symbols => by
    rcases rule.expand_again separator later with
      ⟨rule', rule'', e, hbefore, hfirst, hagain⟩ | ⟨rule', rule'', value, value', hbefore, hfirst, hagain, htarget⟩
    · rw [expandStatements_of_error hbefore, expandStatements_of_error hfirst]
      exact expandStatements_of_error hagain
    · rw [expandStatements_of_ok hbefore, expandStatements_of_ok hfirst]
      refine (expandStatements_of_ok hagain).trans ?_
      rw [htarget]
      exact congrArg (Expansion.cons _ _) (expandStatements_statements separator later rest _ _)

/-- The symbols that an expansion leaves behind make no difference to the next one. -/
theorem expandStatements_symbols (separator later : String) : ∀ (statements : List Statement) (symbols : Symbols),
    expandStatements later statements (expandStatements separator statements symbols).program.symbols =
      expandStatements later statements symbols
  | [],                             _       => rfl
  | .assignment name terms :: rest, symbols =>
    congrArg (Expansion.cons (.assignment name terms) .assignmentNotExpanded)
      (expandStatements_symbols separator later rest symbols)
  | .rule rule :: rest,             symbols => by
    rcases rule.expand_again separator later with
      ⟨rule', rule'', e, hbefore, -, -⟩ | ⟨rule', rule'', value, value', -, hfirst, -, -⟩
    · rw [expandStatements_of_error hbefore]
    · have hdefine : (expandStatements separator (.rule rule :: rest) symbols).program.symbols.define
          Term.allPrerequisitesName value' = symbols.define Term.allPrerequisitesName value' :=
        define_symbols_expandStatements separator value' (.rule rule :: rest) symbols
      rw [expandStatements_of_ok hfirst, expandStatements_of_ok hfirst, hdefine]

/-- **The last expansion wins.**  What an earlier one has done, and whether it failed, is of no account: program,
events and outcome are those of the last one alone. -/
theorem Program.expand_expand (program : Program) (settings later : Settings) :
    (program.expand settings).program.expand later = program.expand later := by
  rw [Program.expand, Program.expand, Program.expand, expandStatements_statements, expandStatements_symbols]

end RuleFile
