import RuleFile.Proofs.LayoutReading
/-!
# Every rule list can be written

The layouts of a rule choose its spaces and line breaks.  Every rule of identifiers and references has one
(`RuleLayout.plain`), and from all of them the same rules are read back, which are also those that the calls of
`RuleFile/Rule.lean` put together (`Rule.rebuilt`).
-/
namespace RuleFile

/-! ## Layouts of a rule -/

/-- A way to write a rule: the spaces around its target, the items of its prerequisites and of its recipe lines, and how
each line ends. -/
structure RuleLayout where
  indent        : Nat
  target        : Term
  gap           : Nat
  prerequisites : List Item
  stop          : LineBreak
  recipe        : List (List Item × LineBreak)
  deriving DecidableEq, Repr

namespace RuleLayout

def rule (l : RuleLayout) : Rule :=
  ⟨l.target, Item.termsOf l.prerequisites, l.recipe.map fun line => Item.termsOf line.1, false⟩

def Spaced (l : RuleLayout) : Prop := Item.Spaced l.prerequisites ∧ ∀ line ∈ l.recipe, Item.Spaced line.1

def header (l : RuleLayout) : LineLayout := .header l.indent l.target l.gap l.prerequisites

def file (l : RuleLayout) : FileLayout :=
  (l.header, l.stop) :: l.recipe.map fun line => (.recipe line.1, line.2)

/-- The text of rules in their layouts.  Unless it is `closed`, its very last line break is left out. -/
def text (closed : Bool) (layouts : List RuleLayout) : String :=
  String.ofList (FileLayout.source closed (layouts.flatMap file))

theorem gather_file : ∀ (isOpen : Bool) (layouts : List RuleLayout),
    LineLayout.gather isOpen ((layouts.flatMap file).map Prod.fst) = ([], layouts.map rule)
  | isOpen, []           => by cases isOpen <;> rfl
  | isOpen, l :: layouts => by
    have hlines : ((l :: layouts).flatMap file).map Prod.fst =
        l.header :: ((l.recipe.map Prod.fst).map LineLayout.recipe ++ (layouts.flatMap file).map Prod.fst) := by
      simp [file, Function.comp_def]
    rw [hlines, header, LineLayout.gather_header, LineLayout.gather_recipe, gather_file true layouts, List.append_nil,
      List.map_map]
    rfl

theorem fits_file {l : RuleLayout} (h : l.rule.IsWritable) (hspaced : l.Spaced) : ∀ line ∈ l.file, line.1.Fits := by
  intro line hline
  rcases List.mem_cons.1 hline with rfl | hline
  · exact LineLayout.fits_header h.target h.prerequisites hspaced.1
  · obtain ⟨recipeLine, hmem, rfl⟩ := List.mem_map.1 hline
    exact LineLayout.fits_recipe (h.recipe _ (List.mem_map_of_mem hmem)) (hspaced.2 recipeLine hmem)

/-! ## The plain layout -/

def apart (terms : List Term) : List Item := terms.flatMap fun t => [.space, .term t]

theorem termsOf_apart : ∀ terms : List Term, Item.termsOf (apart terms) = terms
  | []         => rfl
  | t :: terms => congrArg (t :: ·) (termsOf_apart terms)

theorem spaced_apart : ∀ terms : List Term, Item.Spaced (apart terms)
  | []         => .nil
  | t :: terms => by
    have hlater : Item.Spaced (.term t :: apart terms) := by
      refine List.isChain_cons.2 ⟨?_, spaced_apart terms⟩
      rintro item hitem ⟨-, hid⟩
      cases terms with
      | nil      => cases hitem
      | cons u _ =>
        cases hitem
        cases hid
    exact Item.spaced_spaces_append hlater 1

def plain (rule : Rule) : RuleLayout :=
  ⟨0, rule.target, 0, apart rule.prerequisites, .lineFeed, rule.recipe.map fun line => (apart line, .lineFeed)⟩

theorem rule_plain {r : Rule} (h : r.expanded = false) : (plain r).rule = r := by
  have hrecipe : (r.recipe.map fun line => (apart line, LineBreak.lineFeed)).map (fun line => Item.termsOf line.1) =
      r.recipe := by
    simp [Function.comp_def, termsOf_apart]
  obtain ⟨target, prerequisites, recipe, expanded⟩ := r
  subst h
  simp only [rule, plain, termsOf_apart] at hrecipe ⊢
  rw [hrecipe]

theorem spaced_plain (r : Rule) : (plain r).Spaced := by
  refine ⟨spaced_apart _, ?_⟩
  intro line hline
  obtain ⟨terms, -, rfl⟩ := List.mem_map.1 hline
  exact spaced_apart terms

end RuleLayout

/-! ## Rules that are put together by hand -/

/-- Adds a term to the prerequisites, as `prerequisite` and `variablePrerequisite` do.  There is no call for `$<`. -/
def Rule.add (rule : Rule) : Term → Rule
  | .identifier name  => rule.prerequisite name
  | .reference name _ => rule.variablePrerequisite name
  | .command _        => rule

/-- Adds a term to a recipe line, as `word`, `variableNamed` and `allPrerequisites` do. -/
def RecipeLine.add (line : RecipeLine) : Term → RecipeLine
  | .identifier name      => line.word name
  | .reference name value => if value = "" then line.variableNamed name else line.allPrerequisites
  | .command _            => line

def Rule.rebuilt (rule : Rule) : Rule :=
  rule.recipe.foldl (fun r line => r.command (line.foldl RecipeLine.add .empty))
    (rule.prerequisites.foldl Rule.add (.ofTarget rule.target))

def Program.rebuilt (rules : List Rule) : Program := rules.foldl (fun p r => p.addRule r.rebuilt) .empty

theorem RecipeLine.add_eq {t : Term} (h : t.IsWritable) (line : RecipeLine) : line.add t = line ++ [t] := by
  cases h <;> rfl

theorem RecipeLine.foldl_add : ∀ {terms : List Term}, (∀ t ∈ terms, t.IsWritable) → ∀ line : RecipeLine,
    terms.foldl RecipeLine.add line = line ++ terms
  | [],         _, line => (List.append_nil line).symm
  | t :: terms, h, line => by
    have hlater : ∀ u ∈ terms, u.IsWritable := fun u hu => h u (List.mem_cons_of_mem t hu)
    rw [List.foldl_cons, RecipeLine.add_eq (h t List.mem_cons_self), foldl_add hlater, List.append_assoc]
    rfl

theorem Rule.add_eq {t : Term} (h : t.IsWritable) (hall : t ≠ .allPrerequisites) (rule : Rule) :
    rule.add t = { rule with prerequisites := rule.prerequisites ++ [t] } := by
  cases h with
  | identifier _     => rfl
  | named _          => rfl
  | allPrerequisites => exact absurd rfl hall

theorem Rule.foldl_add : ∀ {terms : List Term}, (∀ t ∈ terms, t.IsWritable) → Term.allPrerequisites ∉ terms →
    ∀ rule : Rule, terms.foldl Rule.add rule = { rule with prerequisites := rule.prerequisites ++ terms }
  | [],         _, _,    rule => by rw [List.foldl_nil, List.append_nil]
  | t :: terms, h, hall, rule => by
    rw [List.mem_cons, not_or] at hall
    have hlater : ∀ u ∈ terms, u.IsWritable := fun u hu => h u (List.mem_cons_of_mem t hu)
    rw [List.foldl_cons, Rule.add_eq (h t List.mem_cons_self) (Ne.symm hall.1), foldl_add hlater hall.2,
      List.append_assoc]
    rfl

theorem Rule.foldl_command : ∀ {recipe : List RecipeLine}, (∀ line ∈ recipe, ∀ t ∈ line, t.IsWritable) →
    ∀ rule : Rule, recipe.foldl (fun r line => r.command (line.foldl RecipeLine.add .empty)) rule =
      { rule with recipe := rule.recipe ++ recipe }
  | [],             _, rule => by rw [List.foldl_nil, List.append_nil]
  | line :: recipe, h, rule => by
    have hlater : ∀ l ∈ recipe, ∀ t ∈ l, t.IsWritable := fun l hl => h l (List.mem_cons_of_mem line hl)
    rw [List.foldl_cons, RecipeLine.foldl_add (h line List.mem_cons_self), foldl_command hlater]
    simp [Rule.command, RecipeLine.empty]

theorem Rule.rebuilt_eq {rule : Rule} (h : rule.IsWritable) (hall : .allPrerequisites ∉ rule.prerequisites) :
    rule.rebuilt = rule := by
  obtain ⟨target, prerequisites, recipe, expanded⟩ := rule
  obtain rfl : expanded = false := h.expanded
  rw [rebuilt, foldl_add h.prerequisites hall, foldl_command h.recipe]
  rfl

theorem Program.foldl_addRule : ∀ (rules : List Rule) (program : Program),
    rules.foldl Program.addRule program = program.addRules rules
  | [],            program => by simp [addRules]
  | rule :: rules, program => by
    rw [List.foldl_cons, foldl_addRule rules]
    simp [addRules, addRule, addStatement]

theorem Program.rebuilt_eq {rules : List Rule} (h : ∀ r ∈ rules, r.IsWritable)
    (hall : ∀ r ∈ rules, .allPrerequisites ∉ r.prerequisites) :
    Program.rebuilt rules = Program.empty.addRules rules := by
  have hrebuilt : rules.map Rule.rebuilt = rules :=
    (List.map_congr_left fun r hr => Rule.rebuilt_eq (h r hr) (hall r hr)).trans (List.map_id' rules)
  rw [rebuilt, ← Program.foldl_addRule]
  conv => rhs; rw [← hrebuilt, List.foldl_map]

/-! ## All layouts -/

/-- **Every rule list has a text, and is read from every text it has.**  However its rules are laid out, and whatever
the settings are, they come back as they are; where the calls above can put them together, the program is the same. -/
theorem result_parseText_layouts (rules : List Rule) (hrules : ∀ r ∈ rules, r.IsWritable) :
    (∃ layouts : List RuleLayout, layouts.map RuleLayout.rule = rules ∧ ∀ l ∈ layouts, l.Spaced) ∧
    (∀ layouts : List RuleLayout, layouts.map RuleLayout.rule = rules → (∀ l ∈ layouts, l.Spaced) →
      ∀ (closed : Bool) (settings : Settings),
        (parseText settings (RuleLayout.text closed layouts)).result = .ok (Program.empty.addRules rules)) ∧
    ((∀ r ∈ rules, .allPrerequisites ∉ r.prerequisites) → Program.rebuilt rules = Program.empty.addRules rules) := by
  refine ⟨⟨rules.map RuleLayout.plain, ?_, ?_⟩, ?_, Program.rebuilt_eq hrules⟩
  · rw [List.map_map]
    exact (List.map_congr_left fun r hr => RuleLayout.rule_plain (hrules r hr).expanded).trans (List.map_id' rules)
  · intro l hl
    obtain ⟨r, -, rfl⟩ := List.mem_map.1 hl
    exact RuleLayout.spaced_plain r
  · intro layouts heq hspaced closed settings
    have hfits : ∀ line ∈ layouts.flatMap RuleLayout.file, line.1.Fits := by
      intro line hline
      obtain ⟨l, hl, hline⟩ := List.mem_flatMap.1 hline
      have hrule : l.rule.IsWritable := hrules l.rule (heq ▸ List.mem_map_of_mem hl)
      exact RuleLayout.fits_file hrule (hspaced l hl) line hline
    rw [RuleLayout.text, result_parseText_source closed hfits settings, RuleLayout.gather_file, heq]

def bundle : List Rule :=
  [⟨.named "OUT", [.identifier "a.b", .named "S"], [[.allPrerequisites, .identifier "x"], []], false⟩]

/-- Terms side by side, three line breaks, and none at the end. -/
def bundleLayout : List RuleLayout :=
  [⟨0, .named "OUT", 1, [.term (.identifier "a.b"), .term (.named "S")], .carriageReturn,
    [([.space, .term .allPrerequisites, .term (.identifier "x")], .both), ([], .lineFeed)]⟩]

theorem result_parseText_bundle : (∀ r ∈ bundle, r.IsWritable) ∧
    (parseText ⟨true, ""⟩ "$(OUT) :a.b$(S)\r\t $<x\r\n\t").result = .ok (Program.empty.addRules bundle) ∧
    Program.rebuilt bundle = Program.empty.addRules bundle := by
  have hrules : ∀ r ∈ bundle, r.IsWritable := by
    intro r hr
    obtain rfl := List.mem_singleton.1 hr
    refine ⟨.named (by decide), ?_, ?_, rfl⟩
    · simp only [List.forall_mem_cons]
      exact ⟨.identifier (by decide), .named (by decide), by simp⟩
    · simp only [List.forall_mem_cons]
      exact ⟨⟨.allPrerequisites, .identifier (by decide), by simp⟩, by simp, by simp⟩
  have hspaced : ∀ l ∈ bundleLayout, l.Spaced := by
    intro l hl
    obtain rfl := List.mem_singleton.1 hl
    exact ⟨by decide, by decide⟩
  obtain ⟨-, hread, hrebuilt⟩ := result_parseText_layouts bundle hrules
  exact ⟨hrules, hread bundleLayout rfl hspaced false ⟨true, ""⟩, hrebuilt (by decide)⟩

end RuleFile
