import Mathlib
import RuleFile.Proofs.Expanding
import RuleFile.Proofs.Filling
/-!
# What an expansion leaves behind

An expansion goes to its end if no rule has a recipe line among its terms, and stops at the first rule that has one.
Either way a rule in front of that is expanded by itself: its own prerequisites are joined, and the references to them
in its own recipe are filled (`Program.expand_effect`).  What is behind is as it was, and of the rule itself those
references are filled that stand in front of the term at fault (`Program.expand_stop`).
-/
namespace RuleFile

/-! ## Terms -/

/-- What filling makes of a term: a reference to all prerequisites gets the value, and any other term stays. -/
inductive Term.FilledTo (value : String) : Term → Term → Prop where
  | allPrerequisites (old : String) :
      FilledTo value (.reference allPrerequisitesName old) (.reference allPrerequisitesName value)
  | other {t : Term} (h : ∀ old, t ≠ .reference allPrerequisitesName old) : FilledTo value t t

theorem Term.filledTo_fill (value : String) (t : Term) : t.FilledTo value (t.fill value) := by
  cases t with
  | identifier name    => exact .other nofun
  | command terms      => exact .other nofun
  | reference name old =>
    by_cases h : name = allPrerequisitesName
    · subst h
      exact .allPrerequisites old
    · rw [fill, if_neg h]
      refine .other fun old' heq => h ?_
      cases heq
      rfl

theorem forall₂_map_fill (value : String) (terms : List Term) :
    List.Forall₂ (Term.FilledTo value) terms (terms.map (Term.fill value)) :=
  List.forall₂_map_right_iff.2 (List.forall₂_same.2 fun t _ => t.filledTo_fill value)

theorem forall₂_map_map_fill (value : String) (lines : List RecipeLine) :
    List.Forall₂ (List.Forall₂ (Term.FilledTo value)) lines (lines.map (·.map (Term.fill value))) :=
  List.forall₂_map_right_iff.2 (List.forall₂_same.2 fun line _ => forall₂_map_fill value line)

/-! ## What goes wrong first -/

/-- Where not all of a list is such that `P`, there is a first one that is not. -/
theorem exists_first {α : Type} {P : α → Prop} {l : List α} (h : ¬ ∀ x ∈ l, P x) :
    ∃ front x rest, l = front ++ x :: rest ∧ (∀ y ∈ front, P y) ∧ ¬ P x := by
  classical
  cases hfind : l.find? (fun x => decide (¬ P x)) with
  | none   => exact absurd (fun x hx => by simpa using List.find?_eq_none.1 hfind x hx) h
  | some x =>
    obtain ⟨hx, front, rest, heq, hfront⟩ := List.find?_eq_some_iff_append.1 hfind
    exact ⟨front, x, rest, heq, fun y hy => by simpa using hfront y hy, by simpa using hx⟩

theorem exists_first_command {terms : List Term} (h : ¬ ∀ t ∈ terms, t.isSimple = true) :
    ∃ front inner rest, terms = front ++ .command inner :: rest ∧ ∀ t ∈ front, t.isSimple = true := by
  obtain ⟨front, t, rest, heq, hfront, ht⟩ := exists_first h
  cases t with
  | command inner => exact ⟨front, inner, rest, heq, hfront⟩
  | _             => exact absurd rfl ht

/-! ## Rules -/

namespace Rule

/-- What an expansion that goes to the end of a rule makes of it. -/
structure ExpandedTo (separator : String) (rule rule' : Rule) : Prop where
  target        : rule'.target = rule.target
  prerequisites : rule'.prerequisites = rule.prerequisites
  recipe        : List.Forall₂ (List.Forall₂ (Term.FilledTo (rule.joinedNames separator))) rule.recipe rule'.recipe
  expanded      : rule'.expanded = true

/-- What an expansion makes of a rule that has a recipe line among the terms of its recipe.  The terms in front of the
first such one are filled, those of the lines above and those of its own line, and nothing else has changed. -/
def StoppedTo (separator : String) (rule rule' : Rule) : Prop :=
  ∃ (lines lines' : List RecipeLine) (front front' inner rest : List Term) (later : List RecipeLine),
    rule.recipe = lines ++ (front ++ .command inner :: rest) :: later ∧
    (∀ line ∈ lines, ∀ t ∈ line, t.isSimple = true) ∧ (∀ t ∈ front, t.isSimple = true) ∧
    List.Forall₂ (List.Forall₂ (Term.FilledTo (rule.joinedNames separator))) lines lines' ∧
    List.Forall₂ (Term.FilledTo (rule.joinedNames separator)) front front' ∧
    rule' = { rule with recipe := lines' ++ (front' ++ .command inner :: rest) :: later }

theorem expandedTo_filled (separator : String) (rule : Rule) : rule.ExpandedTo separator (rule.filled separator) :=
  ⟨rfl, rfl, forall₂_map_map_fill _ _, rfl⟩

theorem prerequisiteNames?_command {front : List Term} (h : ∀ t ∈ front, t.isSimple = true) (inner rest : List Term) :
    prerequisiteNames? (front ++ .command inner :: rest) = none := by
  induction front with
  | nil => rfl
  | cons t front ih =>
    have hlater := ih fun u hu => h u (List.mem_cons_of_mem t hu)
    cases t with
    | identifier name    => rw [List.cons_append, prerequisiteNames?, hlater]; rfl
    | reference name old => rw [List.cons_append, prerequisiteNames?, hlater]
    | command terms      => cases h _ List.mem_cons_self

theorem fillLine_command (value : String) {front : List Term} (h : ∀ t ∈ front, t.isSimple = true)
    (inner rest : List Term) :
    fillLine value (front ++ .command inner :: rest) =
      (front.map (Term.fill value) ++ .command inner :: rest, false) := by
  induction front with
  | nil => rfl
  | cons t front ih =>
    have hlater := ih fun u hu => h u (List.mem_cons_of_mem t hu)
    rw [List.cons_append, fillLine_cons value (h t List.mem_cons_self), hlater]
    rfl

theorem fillRecipe_stop {value : String} {lines : List RecipeLine} (h : ∀ line ∈ lines, ∀ t ∈ line, t.isSimple = true)
    {line line' : RecipeLine} (hline : fillLine value line = (line', false)) (later : List RecipeLine) :
    fillRecipe value (lines ++ line :: later) = (lines.map (·.map (Term.fill value)) ++ line' :: later, false) := by
  induction lines with
  | nil => rw [List.nil_append, fillRecipe, hline]; rfl
  | cons l lines ih =>
    have hlater := ih fun m hm => h m (List.mem_cons_of_mem l hm)
    rw [List.cons_append, fillRecipe, fillLine_eq value (h l List.mem_cons_self)]
    simp only [hlater, List.map_cons, List.cons_append]

section

variable {rule : Rule}

theorem expand_of_prerequisite (h : ¬ ∀ t ∈ rule.prerequisites, t.isSimple = true) (separator : String) :
    rule.expand separator = (rule, .error ⟨.unexpectedPrerequisite, rule.errorName⟩) := by
  obtain ⟨front, inner, rest, heq, hfront⟩ := exists_first_command h
  apply expand_of_none
  rw [heq]
  exact prerequisiteNames?_command hfront inner rest

theorem expand_of_recipe (h : ∀ t ∈ rule.prerequisites, t.isSimple = true)
    (hrecipe : ¬ ∀ line ∈ rule.recipe, ∀ t ∈ line, t.isSimple = true) (separator : String) :
    ∃ rule', rule.StoppedTo separator rule' ∧
      rule.expand separator = (rule', .error ⟨.unexpectedTerm, rule.errorName⟩) := by
  obtain ⟨lines, line, later, heq, hlines, hline⟩ := exists_first hrecipe
  obtain ⟨front, inner, rest, rfl, hfront⟩ := exists_first_command hline
  refine ⟨_, ⟨lines, _, front, _, inner, rest, later, heq, hlines, hfront, forall₂_map_map_fill _ _,
    forall₂_map_fill _ _, rfl⟩, ?_⟩
  apply expand_of_stopped (prerequisiteNames?_eq h)
  rw [heq]
  exact fillRecipe_stop hlines (fillLine_command _ hfront inner rest) later

end

/-- **A rule that is not simple stops the expansion.**  Its prerequisites are looked at first, whatever the recipe. -/
theorem expand_of_not_isSimple {rule : Rule} (h : ¬ rule.IsSimple) (separator : String) :
    ∃ rule' cause, rule.expand separator = (rule', .error ⟨cause, rule.errorName⟩) ∧
      (¬ (∀ t ∈ rule.prerequisites, t.isSimple = true) ∧ cause = .unexpectedPrerequisite ∧ rule' = rule ∨
        (∀ t ∈ rule.prerequisites, t.isSimple = true) ∧ cause = .unexpectedTerm ∧ rule.StoppedTo separator rule') := by
  by_cases hprerequisites : ∀ t ∈ rule.prerequisites, t.isSimple = true
  · have hrecipe : ¬ ∀ line ∈ rule.recipe, ∀ t ∈ line, t.isSimple = true := fun hall => h ⟨hprerequisites, hall⟩
    obtain ⟨rule', hstopped, hexpand⟩ := expand_of_recipe hprerequisites hrecipe separator
    exact ⟨rule', _, hexpand, .inr ⟨hprerequisites, rfl, hstopped⟩⟩
  · exact ⟨rule, _, expand_of_prerequisite hprerequisites separator, .inl ⟨hprerequisites, rfl, rfl⟩⟩

end Rule

/-! ## Statements -/

/-- What an expansion that goes past a statement makes of it. -/
inductive Statement.ExpandedTo (separator : String) : Statement → Statement → Prop where
  | assignment (name : Term) (value : List Term) :
      ExpandedTo separator (.assignment name value) (.assignment name value)
  | rule {rule rule' : Rule} (h : rule.ExpandedTo separator rule') : ExpandedTo separator (.rule rule) (.rule rule')

theorem mem_rules {p : Program} {r : Rule} : r ∈ p.rules ↔ .rule r ∈ p.statements := by
  rw [Program.rules, List.mem_filterMap]
  constructor
  · rintro ⟨s, hs, hr⟩
    cases s with
    | rule r'        => cases hr; exact hs
    | assignment _ _ => cases hr
  · exact fun h => ⟨_, h, rfl⟩

/-- The symbols behind rules, of which the last one counts. -/
def Symbols.afterRules (separator : String) (symbols : Symbols) (rules : List Rule) : Symbols :=
  match rules.getLast? with
  | none   => symbols
  | some r => symbols.define Term.allPrerequisitesName (r.joinedNames separator)

theorem Symbols.afterRules_cons (separator : String) (symbols : Symbols) (rule : Rule) (rules : List Rule) :
    (symbols.define Term.allPrerequisitesName (rule.joinedNames separator)).afterRules separator rules =
      symbols.afterRules separator (rule :: rules) := by
  rw [afterRules, afterRules, List.getLast?_cons]
  cases rules.getLast? with
  | none   => rfl
  | some r => exact symbols.define_define _ _ _

/-- **Past simple rules an expansion goes to the end**, each statement by itself, and of the symbols it leaves those
behind the last rule. -/
theorem expandStatements_of_isSimple (separator : String) : ∀ {statements : List Statement},
    (∀ r, .rule r ∈ statements → r.IsSimple) → ∀ symbols : Symbols,
      (expandStatements separator statements symbols).outcome = .ok () ∧
      List.Forall₂ (Statement.ExpandedTo separator) statements
        (expandStatements separator statements symbols).program.statements ∧
      (expandStatements separator statements symbols).program.symbols =
        symbols.afterRules separator (statements.filterMap Statement.rule?)
  | [],                             _, _       => ⟨rfl, .nil, rfl⟩
  | .assignment name value :: rest, h, symbols => by
    obtain ⟨houtcome, hstatements, hsymbols⟩ :=
      expandStatements_of_isSimple separator (fun r hr => h r (List.mem_cons_of_mem _ hr)) symbols
    exact ⟨houtcome, .cons (.assignment name value) hstatements, hsymbols⟩
  | .rule rule :: rest,             h, symbols => by
    obtain ⟨houtcome, hstatements, hsymbols⟩ :=
      expandStatements_of_isSimple separator (fun r hr => h r (List.mem_cons_of_mem _ hr))
        (symbols.define Term.allPrerequisitesName (rule.joinedNames separator))
    rw [expandStatements_of_ok (Rule.expand_of_isSimple (h rule List.mem_cons_self) separator)]
    refine ⟨houtcome, .cons (.rule (rule.expandedTo_filled separator)) hstatements, ?_⟩
    exact hsymbols.trans (Symbols.afterRules_cons separator symbols rule _)

/-- At the first rule that cannot be expanded an expansion stops, and leaves what is behind it as it is. -/
theorem expandStatements_stop {separator : String} {k k' : Rule} {e : ExpandError}
    (hk : k.expand separator = (k', .error e)) (after : List Statement) : ∀ {before : List Statement},
    (∀ r, .rule r ∈ before → r.IsSimple) → ∀ symbols : Symbols,
      expandStatements separator (before ++ .rule k :: after) symbols =
        ⟨⟨(expandStatements separator before symbols).program.statements ++ .rule k' :: after,
            (expandStatements separator before symbols).program.symbols⟩,
          (expandStatements separator before symbols).events, .error e⟩
  | [],                             _, _       => expandStatements_of_error hk
  | .assignment name value :: rest, h, symbols => by
    have hlater := expandStatements_stop hk after (fun r hr => h r (List.mem_cons_of_mem _ hr)) symbols
    exact congrArg (Expansion.cons (.assignment name value) .assignmentNotExpanded) hlater
  | .rule rule :: rest,             h, symbols => by
    have hrule := Rule.expand_of_isSimple (h rule List.mem_cons_self) separator
    have hlater := expandStatements_stop hk after (fun r hr => h r (List.mem_cons_of_mem _ hr))
      (symbols.define Term.allPrerequisitesName (rule.joinedNames separator))
    rw [List.cons_append, expandStatements_of_ok hrule, expandStatements_of_ok hrule, hlater]
    rfl

/-- Where not all rules are simple, there is a first one that is not. -/
theorem exists_first_rule {statements : List Statement} (h : ¬ ∀ r, .rule r ∈ statements → r.IsSimple) :
    ∃ before k after, statements = before ++ .rule k :: after ∧ (∀ r, .rule r ∈ before → r.IsSimple) ∧
      ¬ k.IsSimple := by
  have hstatements : ¬ ∀ s ∈ statements, ∀ r, s = .rule r → r.IsSimple :=
    fun hall => h fun r hr => hall _ hr r rfl
  obtain ⟨before, s, after, heq, hbefore, hs⟩ := exists_first hstatements
  cases s with
  | assignment name value => exact absurd nofun hs
  | rule k                =>
    refine ⟨before, k, after, heq, fun r hr => hbefore _ hr r rfl, fun hk => hs fun r hr => ?_⟩
    cases hr
    exact hk

/-! ## Programs -/

/-- **What an expansion does that goes to the end.**  It does so exactly if no recipe line stands among the terms of a
rule.  Each statement is then expanded by itself, and of the symbols one has the value of the last rule. -/
theorem Program.expand_effect (p : Program) (settings : Settings) :
    ((p.expand settings).outcome = .ok () ↔ ∀ r ∈ p.rules, r.IsSimple) ∧
    ((p.expand settings).outcome = .ok () →
      List.Forall₂ (Statement.ExpandedTo settings.separator) p.statements (p.expand settings).program.statements ∧
      (∀ name, name ≠ Term.allPrerequisitesName →
        (p.expand settings).program.symbols.get? name = p.symbols.get? name) ∧
      (p.expand settings).program.symbols.get? Term.allPrerequisitesName =
        match p.rules.getLast? with
        | none   => p.symbols.get? Term.allPrerequisitesName
        | some r => some (r.joinedNames settings.separator)) := by
  have hiff : (p.expand settings).outcome = .ok () ↔ ∀ r, .rule r ∈ p.statements → r.IsSimple := by
    refine ⟨fun h => ?_, fun h => (expandStatements_of_isSimple settings.separator h p.symbols).1⟩
    by_contra hnot
    obtain ⟨before, k, after, heq, hbefore, hk⟩ := exists_first_rule hnot
    obtain ⟨k', cause, hexpand, -⟩ := Rule.expand_of_not_isSimple hk settings.separator
    rw [expand, heq, expandStatements_stop hexpand after hbefore] at h
    cases h
  refine ⟨hiff.trans (forall_congr' fun r => imp_congr mem_rules.symm Iff.rfl), fun h => ?_⟩
  obtain ⟨-, hstatements, hsymbols⟩ := expandStatements_of_isSimple settings.separator (hiff.1 h) p.symbols
  refine ⟨hstatements, fun name hname => ?_, ?_⟩
  · rw [expand, hsymbols, Symbols.afterRules]
    split
    · rfl
    · rw [Symbols.get?_define, if_neg hname]
  · rw [expand, hsymbols, Symbols.afterRules, rules]
    split
    · rfl
    · rw [Symbols.get?_define, if_pos rfl]

/-- Two rules, an assignment with a recipe line in it, and a symbol. -/
def twice : Program :=
  ⟨[.rule ⟨.identifier "a", [.identifier "b", .named "v", .identifier "c"],
      [[.allPrerequisites, .named "v"], []], true⟩,
    .assignment (.identifier "x") [.command []],
    .rule ⟨.command [], [.identifier "d"], [[.reference "$^" "old"]], false⟩],
    Symbols.empty.define "x" "y"⟩

theorem expand_effect_twice : (twice.expand ⟨false, "+"⟩).outcome = .ok () ∧
    (twice.expand ⟨false, "+"⟩).program.statements =
      [.rule ⟨.identifier "a", [.identifier "b", .named "v", .identifier "c"],
          [[.reference "$^" "b+c", .named "v"], []], true⟩,
        .assignment (.identifier "x") [.command []],
        .rule ⟨.command [], [.identifier "d"], [[.reference "$^" "d"]], true⟩] ∧
    (twice.expand ⟨false, "+"⟩).program.symbols.get? "x" = some "y" ∧
    (twice.expand ⟨false, "+"⟩).program.symbols.get? "$^" = some "d" := by
  have houtcome : (twice.expand ⟨false, "+"⟩).outcome = .ok () := by cbv
  obtain ⟨-, hsymbols, hlast⟩ := (twice.expand_effect ⟨false, "+"⟩).2 houtcome
  exact ⟨houtcome, by cbv, hsymbols "x" (by decide), hlast⟩

/-- **What an expansion does that stops.**  It stops at the first rule with a recipe line among its terms, and tells of
that rule.  The statements in front of it are expanded as if they were all, and those behind it are as they were. -/
theorem Program.expand_stop (p : Program) (settings : Settings) {e : ExpandError}
    (h : (p.expand settings).outcome = .error e) :
    ∃ (before : List Statement) (k k' : Rule) (after : List Statement),
      p.statements = before ++ .rule k :: after ∧ (∀ r, .rule r ∈ before → r.IsSimple) ∧ ¬ k.IsSimple ∧
      e.target = k.target.name?.getD "" ∧
      (Program.expand settings ⟨before, p.symbols⟩).outcome = .ok () ∧
      (p.expand settings).program =
        ⟨(Program.expand settings ⟨before, p.symbols⟩).program.statements ++ .rule k' :: after,
          (Program.expand settings ⟨before, p.symbols⟩).program.symbols⟩ ∧
      (¬ (∀ t ∈ k.prerequisites, t.isSimple = true) ∧ e.cause = .unexpectedPrerequisite ∧ k' = k ∨
        (∀ t ∈ k.prerequisites, t.isSimple = true) ∧ e.cause = .unexpectedTerm ∧
          k.StoppedTo settings.separator k') := by
  have hnot : ¬ ∀ r, .rule r ∈ p.statements → r.IsSimple := by
    intro hall
    rw [expand, (expandStatements_of_isSimple settings.separator hall p.symbols).1] at h
    cases h
  obtain ⟨before, k, after, heq, hbefore, hk⟩ := exists_first_rule hnot
  obtain ⟨k', cause, hexpand, hcases⟩ := Rule.expand_of_not_isSimple hk settings.separator
  have hstop := expandStatements_stop hexpand after hbefore p.symbols
  rw [← heq] at hstop
  obtain rfl : ⟨cause, k.errorName⟩ = e := by
    rw [expand, hstop] at h
    exact Except.error.inj h
  have hsucceeds := (expandStatements_of_isSimple settings.separator hbefore p.symbols).1
  exact ⟨before, k, k', after, heq, hbefore, hk, rfl, hsucceeds, congrArg Expansion.program hstop, hcases⟩

/-- A rule whose recipe has recipe lines among its terms, between two that have none. -/
def nested : Rule :=
  ⟨.identifier "k", [.identifier "p", .named "v", .identifier "q"],
    [[.allPrerequisites], [.identifier "w", .allPrerequisites, .command [.allPrerequisites], .allPrerequisites],
      [.allPrerequisites, .command []]], false⟩

def nestedBetween : Program :=
  ⟨[.rule ((Rule.named "a").prerequisite "b"), .rule nested, .rule ((Rule.named "c").command [.allPrerequisites])],
    .empty⟩

theorem expand_stop_nested :
    (nestedBetween.expand ⟨false, "+"⟩).outcome = .error ⟨.unexpectedTerm, "k"⟩ ∧
    (∃ before k k' after, nestedBetween.statements = before ++ .rule k :: after ∧
      (∀ r, .rule r ∈ before → r.IsSimple) ∧ k.StoppedTo "+" k' ∧
      (nestedBetween.expand ⟨false, "+"⟩).program.statements =
        (Program.expand ⟨false, "+"⟩ ⟨before, .empty⟩).program.statements ++ .rule k' :: after) ∧
    (nestedBetween.expand ⟨false, "+"⟩).program.statements =
      [.rule { (Rule.named "a").prerequisite "b" with expanded := true },
        .rule { nested with recipe :=
          [[.reference "$^" "p+q"],
            [.identifier "w", .reference "$^" "p+q", .command [.allPrerequisites], .allPrerequisites],
            [.allPrerequisites, .command []]] },
        .rule ((Rule.named "c").command [.allPrerequisites])] := by
  have houtcome : (nestedBetween.expand ⟨false, "+"⟩).outcome = .error ⟨.unexpectedTerm, "k"⟩ := by cbv
  obtain ⟨before, k, k', after, heq, hbefore, -, -, -, hprogram, hcases⟩ := nestedBetween.expand_stop _ houtcome
  rcases hcases with ⟨-, hcause, -⟩ | ⟨-, -, hstopped⟩
  · cases hcause
  · exact ⟨houtcome, ⟨before, k, k', after, heq, hbefore, hstopped, congrArg Program.statements hprogram⟩, by cbv⟩

end RuleFile
