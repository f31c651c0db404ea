import RuleFile.Printing
import RuleFile.Proofs.LayoutReading
/-!
# Printing and reading back

A program whose texts are words, names with spaces between them, is printed as a layout of its words, so it is read back
as the rules of these words (`result_parseText_format`).  Terms are printed as what they stand for, and come back as the
identifiers in it.  A rule whose target stands for nothing is printed without one, and nothing of it comes back: its
header leaves nothing, and since it opens no rule, its recipe leaves nothing either.
-/
namespace RuleFile

/-! ## Words -/

/-- A text of words: between its spaces stand names, or nothing. -/
def isWords (value : String) : Bool := (value.toList.splitOn ' ').all fun w => w.isEmpty || isName w

def wordsOf (value : String) : List Term :=
  ((value.toList.splitOn ' ').filter (!·.isEmpty)).map fun w => .identifier (String.ofList w)

/-- The words of terms, in the order in which they are printed. -/
def wordsOfTerms (terms : List Term) : List Term := terms.flatMap fun t => wordsOf t.value

/-- A term that is one word. -/
inductive Term.IsWord : Term → Prop where
  | identifier {name : String} (h : isName name.toList = true) : IsWord (.identifier name)

theorem Term.IsWord.isWritable {t : Term} : t.IsWord → t.IsWritable
  | .identifier h => .identifier h

theorem isWord_of_mem_wordsOf {value : String} (h : isWords value = true) : ∀ t ∈ wordsOf value, t.IsWord := by
  intro t ht
  obtain ⟨w, hw, rfl⟩ := List.mem_map.1 ht
  obtain ⟨hw, hne⟩ := List.mem_filter.1 hw
  have hname := List.all_eq_true.1 h w hw
  rw [Bool.not_eq_true'] at hne
  rw [hne, Bool.false_or] at hname
  exact .identifier (by rwa [String.toList_ofList])

theorem isWord_of_mem_wordsOfTerms {terms : List Term} (h : ∀ t ∈ terms, isWords t.value = true) :
    ∀ t ∈ wordsOfTerms terms, t.IsWord := by
  intro t ht
  obtain ⟨u, hu, ht⟩ := List.mem_flatMap.1 ht
  exact isWord_of_mem_wordsOf (h u hu) t ht

/-- A name is one word, since it has no spaces. -/
theorem splitOn_of_isName {name : List Char} (h : isName name = true) : name.splitOn ' ' = [name] := by
  apply List.splitOn_eq_singleton
  intro hspace
  have := forall_mem_of_isName h ' ' hspace
  revert this
  decide

theorem Term.IsWord.isWords {t : Term} : t.IsWord → isWords t.value = true
  | .identifier h => by
    rw [RuleFile.isWords, value, splitOn_of_isName h, List.all_cons, h, Bool.or_true]
    rfl

theorem Term.IsWord.wordsOf {t : Term} : t.IsWord → wordsOf t.value = [t]
  | @identifier name h => by
    have hne : name.toList.isEmpty = false := by
      cases hname : name.toList with
      | nil      => rw [hname] at h; cases h
      | cons c _ => rfl
    rw [RuleFile.wordsOf, value, splitOn_of_isName h, List.filter_cons_of_pos (by simp [hne]), List.filter_nil,
      List.map_singleton, String.ofList_toList]

theorem wordsOfTerms_of_isWord : ∀ {terms : List Term}, (∀ t ∈ terms, t.IsWord) → wordsOfTerms terms = terms
  | [],         _ => rfl
  | t :: terms, h => by
    have hlater : ∀ u ∈ terms, u.IsWord := fun u hu => h u (List.mem_cons_of_mem t hu)
    have ht := (h t List.mem_cons_self).wordsOf
    rw [wordsOfTerms, List.flatMap_cons, ht, ← wordsOfTerms, wordsOfTerms_of_isWord hlater]
    rfl

namespace Item

/-! ## Words as items -/

def ofPiece (w : List Char) : List Item := if w.isEmpty then [] else [.term (.identifier (String.ofList w))]

/-- Lists of items with a space between any two. -/
def joined (lists : List (List Item)) : List Item := [space].intercalate lists

def ofValue (value : String) : List Item := joined ((value.toList.splitOn ' ').map ofPiece)

def ofValues (terms : List Term) : List (List Item) := terms.map fun t => ofValue t.value

theorem joined_singleton (items : List Item) : joined [items] = items := List.intercalate_singleton

theorem joined_cons_cons (l l' : List Item) (rest : List (List Item)) :
    joined (l :: l' :: rest) = l ++ .space :: joined (l' :: rest) := by
  rw [joined, List.intercalate_cons_cons, List.append_assoc]
  rfl

theorem sourceOf_joined : ∀ lists : List (List Item), sourceOf (joined lists) = [' '].intercalate (lists.map sourceOf)
  | []              => rfl
  | [items]         => by rw [joined_singleton, List.map_singleton, List.intercalate_singleton]
  | l :: l' :: rest => by
    have ih := sourceOf_joined (l' :: rest)
    rw [List.map_cons] at ih
    rw [joined_cons_cons, List.map_cons, List.map_cons, List.intercalate_cons_cons, ← ih, sourceOf, List.flatMap_append,
      List.append_assoc]
    rfl

theorem termsOf_joined : ∀ lists : List (List Item), termsOf (joined lists) = lists.flatMap termsOf
  | []              => rfl
  | [items]         => by rw [joined_singleton, List.flatMap_singleton]
  | l :: l' :: rest => by
    rw [joined_cons_cons, List.flatMap_cons, ← termsOf_joined (l' :: rest), termsOf, List.filterMap_append]
    rfl

theorem spaced_append_space {items later : List Item} (h : Spaced items) (hlater : Spaced later) :
    Spaced (items ++ .space :: later) := by
  refine List.isChain_append.2 ⟨h, spaced_spaces_append hlater 1, ?_⟩
  rintro x - y hy ⟨-, hid⟩
  cases hy
  cases hid

theorem spaced_joined : ∀ {lists : List (List Item)}, (∀ l ∈ lists, Spaced l) → Spaced (joined lists)
  | [],              _ => .nil
  | [items],         h => by
    rw [joined_singleton]
    exact h items List.mem_cons_self
  | l :: l' :: rest, h => by
    have ih : Spaced (joined (l' :: rest)) := spaced_joined fun k hk => h k (List.mem_cons_of_mem l hk)
    rw [joined_cons_cons]
    exact spaced_append_space (h l List.mem_cons_self) ih

theorem sourceOf_ofPiece (w : List Char) : sourceOf (ofPiece w) = w := by
  cases w with
  | nil       => rfl
  | cons c cs => simp [ofPiece, sourceOf, source, Term.source]

theorem sourceOf_ofValue (value : String) : sourceOf (ofValue value) = value.toList := by
  rw [ofValue, sourceOf_joined, List.map_map]
  have hpieces : (value.toList.splitOn ' ').map (sourceOf ∘ ofPiece) = value.toList.splitOn ' ' :=
    (List.map_congr_left fun w _ => sourceOf_ofPiece w).trans (List.map_id' _)
  rw [hpieces, List.intercalate_splitOn]

theorem termsOf_ofValue (value : String) : termsOf (ofValue value) = wordsOf value := by
  rw [ofValue, termsOf_joined, wordsOf]
  generalize value.toList.splitOn ' ' = pieces
  induction pieces with
  | nil => rfl
  | cons w pieces ih =>
    rw [List.map_cons, List.flatMap_cons, ih]
    cases w <;> rfl

theorem spaced_ofValue (value : String) : Spaced (ofValue value) := by
  apply spaced_joined
  intro l hl
  obtain ⟨w, -, rfl⟩ := List.mem_map.1 hl
  unfold ofPiece
  split
  · exact .nil
  · exact .singleton _

theorem termsOf_joined_ofValues (terms : List Term) : termsOf (joined (ofValues terms)) = wordsOfTerms terms := by
  rw [termsOf_joined, ofValues, List.flatMap_map]
  exact List.flatMap_congr fun t _ => termsOf_ofValue t.value

theorem sourceOf_joined_ofValues (terms : List Term) :
    sourceOf (joined (ofValues terms)) = [' '].intercalate (terms.map fun t => t.value.toList) := by
  rw [sourceOf_joined, ofValues, List.map_map]
  congr 1
  exact List.map_congr_left fun t _ => sourceOf_ofValue t.value

theorem spaced_ofValues (terms : List Term) : ∀ l ∈ ofValues terms, Spaced l := by
  intro l hl
  obtain ⟨t, -, rfl⟩ := List.mem_map.1 hl
  exact spaced_ofValue t.value

end Item

/-! ## Printed rules as layouts -/

namespace Rule

/-- A rule whose texts are words. -/
structure PrintsWords (rule : Rule) : Prop where
  target        : rule.target.value = "" ∨ isName rule.target.value.toList = true
  prerequisites : ∀ t ∈ rule.prerequisites, isWords t.value = true
  recipe        : ∀ line ∈ rule.recipe, ∀ t ∈ line, isWords t.value = true

def printsTarget (rule : Rule) : Bool := rule.target.value != ""

/-- A rule as it is read back, if it prints a target. -/
def readBack (rule : Rule) : Rule :=
  ⟨.identifier rule.target.value, wordsOfTerms rule.prerequisites, rule.recipe.map wordsOfTerms, false⟩

/-- The items behind the colon: each value has a space in front of it. -/
def headerItems (rule : Rule) : List Item := Item.joined ([] :: Item.ofValues rule.prerequisites)

def headerLine (rule : Rule) : LineLayout :=
  if rule.target.value = "" then .headless rule.headerItems
  else .header 0 (.identifier rule.target.value) 0 rule.headerItems

def recipeItems (rule : Rule) : List (List Item) := rule.recipe.map fun line => Item.joined (Item.ofValues line)

def printedLines (rule : Rule) : List LineLayout := rule.headerLine :: rule.recipeItems.map LineLayout.recipe

def printedFile (rule : Rule) : FileLayout := rule.printedLines.map fun line => (line, .lineFeed)

theorem intercalate_cons (l : List Char) : ∀ ls : List (List Char),
    [' '].intercalate (l :: ls) = l ++ ls.flatMap (' ' :: ·)
  | []       => by rw [List.intercalate_singleton, List.flatMap_nil, List.append_nil]
  | l' :: ls => by
    rw [List.intercalate_cons_cons, intercalate_cons l' ls, List.flatMap_cons, List.append_assoc]
    rfl

theorem termsOf_headerItems (rule : Rule) : Item.termsOf rule.headerItems = wordsOfTerms rule.prerequisites := by
  rw [headerItems, Item.termsOf_joined, List.flatMap_cons, ← Item.termsOf_joined, Item.termsOf_joined_ofValues]
  rfl

theorem source_headerLine (rule : Rule) : rule.headerLine.source =
    rule.target.value.toList ++ ':' :: rule.prerequisites.flatMap fun t => ' ' :: t.value.toList := by
  have hitems : Item.sourceOf rule.headerItems = rule.prerequisites.flatMap fun t => ' ' :: t.value.toList := by
    have hfirst : Item.sourceOf ([] : List Item) = [] := rfl
    rw [headerItems, Item.sourceOf_joined, List.map_cons, hfirst, intercalate_cons, List.nil_append, Item.ofValues,
      List.map_map, List.flatMap_map]
    exact List.flatMap_congr fun t _ => congrArg (' ' :: ·) (Item.sourceOf_ofValue t.value)
  unfold headerLine
  split
  · rename_i h
    rw [h, ← hitems]
    rfl
  · rw [← hitems]
    show Item.sourceOf [.term (.identifier rule.target.value)] ++ ':' :: Item.sourceOf rule.headerItems = _
    rw [Item.sourceOf, List.flatMap_singleton]
    rfl

theorem source_recipe (line : RecipeLine) :
    (LineLayout.recipe (Item.joined (Item.ofValues line))).source = '\t' :: (Term.joined line).toList := by
  have hjoined : (Term.joined line).toList = [' '].intercalate (line.map fun t => t.value.toList) := by
    rw [Term.joined, String.toList_intercalate, Term.values_eq_map, List.map_map]
    rfl
  rw [hjoined, ← Item.sourceOf_joined_ofValues]
  rfl

theorem source_printedFile (rule : Rule) :
    FileLayout.source true rule.printedFile = rule.texts.flatMap String.toList := by
  have hlines : FileLayout.source true rule.printedFile =
      rule.printedLines.flatMap fun line => line.source ++ ['\n'] := by
    rw [FileLayout.source_true, printedFile, List.flatMap_map]
    rfl
  have hrecipe : (rule.recipeItems.map LineLayout.recipe).flatMap (fun line => line.source ++ ['\n']) =
      (rule.recipe.flatMap fun line => ["\t", Term.joined line, "\n"]).flatMap String.toList := by
    rw [recipeItems, List.map_map, List.flatMap_map, List.flatMap_assoc]
    exact List.flatMap_congr fun line _ => by
      rw [Function.comp_apply, source_recipe]
      simp
  have hprerequisites : (rule.prerequisites.flatMap fun t => ' ' :: t.value.toList) =
      (rule.prerequisites.flatMap fun t => [" ", t.value]).flatMap String.toList := by
    rw [List.flatMap_assoc]
    exact List.flatMap_congr fun t _ => by simp
  rw [hlines, printedLines, List.flatMap_cons, hrecipe, source_headerLine, hprerequisites]
  simp [texts]

end Rule

namespace Program

theorem filterMap_text?_output : ∀ statements : List Statement,
    (statements.flatMap Statement.output).filterMap Output.text? =
      (statements.filterMap Statement.rule?).flatMap Rule.texts
  | []                       => rfl
  | .assignment _ _ :: later => filterMap_text?_output later
  | .rule r :: later         => by
    have htexts : (r.texts.map Output.text).filterMap Output.text? = r.texts := by
      rw [List.filterMap_map]
      exact List.filterMap_some
    have hrule : (Statement.rule r :: later).filterMap Statement.rule? = r :: later.filterMap Statement.rule? := rfl
    rw [List.flatMap_cons, List.filterMap_append, filterMap_text?_output later, Statement.output, htexts, hrule,
      List.flatMap_cons]

theorem toList_format (p : Program) :
    p.format.toList = FileLayout.source true (p.rules.flatMap Rule.printedFile) := by
  have hrules : (p.rules.flatMap Rule.texts).flatMap String.toList = p.rules.flatMap fun r =>
      FileLayout.source true r.printedFile := by
    rw [List.flatMap_assoc]
    exact List.flatMap_congr fun r _ => r.source_printedFile.symm
  rw [format, Output.joined, String.toList_join, output, filterMap_text?_output]
  show (p.rules.flatMap Rule.texts).flatMap String.toList = _
  rw [hrules, FileLayout.source_true, List.flatMap_assoc]
  exact List.flatMap_congr fun r _ => FileLayout.source_true r.printedFile

def readBack (p : Program) : Program :=
  Program.empty.addRules ((p.rules.filter Rule.printsTarget).map Rule.readBack)

end Program

theorem LineLayout.gather_false_recipe (later : List LineLayout) : ∀ recipes : List (List Item),
    (gather false (recipes.map recipe ++ later)).2 = (gather false later).2
  | []           => rfl
  | _ :: recipes => gather_false_recipe later recipes

namespace Rule

theorem gather_printedLines : ∀ (isOpen : Bool) (rules : List Rule),
    LineLayout.gather isOpen (rules.flatMap printedLines) =
      ([], (rules.filter Rule.printsTarget).map readBack)
  | isOpen, []            => by cases isOpen <;> rfl
  | isOpen, rule :: rules => by
    rw [List.flatMap_cons, printedLines, List.cons_append]
    by_cases h : rule.target.value = ""
    · -- its recipe comes where no rule is open, also if one was open in front of it
      have hfilter : (rule :: rules).filter Rule.printsTarget = rules.filter Rule.printsTarget :=
        List.filter_cons_of_neg (by simp [printsTarget, h])
      have hheadless (later : List LineLayout) : LineLayout.gather isOpen (.headless rule.headerItems :: later) =
          ([], (LineLayout.gather false later).2) := by cases isOpen <;> rfl
      rw [headerLine, if_pos h, hheadless, LineLayout.gather_false_recipe, gather_printedLines false rules, hfilter]
    · have hfilter : (rule :: rules).filter Rule.printsTarget = rule :: rules.filter Rule.printsTarget :=
        List.filter_cons_of_pos (by simp [printsTarget, h])
      have hrecipe : rule.recipeItems.map Item.termsOf = rule.recipe.map wordsOfTerms := by
        rw [recipeItems, List.map_map]
        exact List.map_congr_left fun line _ => Item.termsOf_joined_ofValues line
      rw [headerLine, if_neg h, LineLayout.gather_header, LineLayout.gather_recipe, gather_printedLines true rules,
        termsOf_headerItems, hrecipe, hfilter, List.append_nil]
      rfl

/-- What holds of the words of a rule holds of the terms of its lines. -/
theorem forall_mem_printedLines {P : Term → Prop} {rule : Rule}
    (htarget : rule.target.value ≠ "" → P (.identifier rule.target.value))
    (hprerequisites : ∀ t ∈ wordsOfTerms rule.prerequisites, P t)
    (hrecipe : ∀ line ∈ rule.recipe, ∀ t ∈ wordsOfTerms line, P t) :
    ∀ line ∈ rule.printedLines, line.MadeOf P := by
  have hnone : ∀ t ∈ Item.termsOf [], P t := fun _ ht => (List.not_mem_nil ht).elim
  have hitems : ∀ t ∈ Item.termsOf rule.headerItems, P t := by
    rw [termsOf_headerItems]
    exact hprerequisites
  have hspaced : Item.Spaced rule.headerItems := by
    apply Item.spaced_joined
    intro l hl
    rcases List.mem_cons.1 hl with rfl | hl
    · exact .nil
    · exact Item.spaced_ofValues _ l hl
  intro line hline
  rcases List.mem_cons.1 hline with rfl | hline
  · unfold headerLine
    split
    · exact ⟨hnone, hitems, hspaced⟩
    · rename_i hne
      exact ⟨fun t ht => LineLayout.mem_termsOf_front.1 ht ▸ htarget hne, hitems, hspaced⟩
  · obtain ⟨items, hitems, rfl⟩ := List.mem_map.1 hline
    obtain ⟨terms, hterms, rfl⟩ := List.mem_map.1 hitems
    refine ⟨hnone, ?_, Item.spaced_joined (Item.spaced_ofValues terms)⟩
    show ∀ t ∈ Item.termsOf (Item.joined (Item.ofValues terms)), P t
    rw [Item.termsOf_joined_ofValues]
    exact hrecipe terms hterms

theorem fits_printedLines {rule : Rule} (h : rule.PrintsWords) : ∀ line ∈ rule.printedLines, line.Fits :=
  forall_mem_printedLines (fun hne => .identifier (h.target.resolve_left hne))
    (fun t ht => (isWord_of_mem_wordsOfTerms h.prerequisites t ht).isWritable)
    fun terms hterms t ht => (isWord_of_mem_wordsOfTerms (h.recipe terms hterms) t ht).isWritable

end Rule

theorem Program.result_parseText_readBack {p : Program} (h : ∀ r ∈ p.rules, r.PrintsWords) (settings : Settings) :
    (parseText settings p.format).result = .ok p.readBack := by
  have hfits : ∀ l ∈ p.rules.flatMap Rule.printedFile, l.1.Fits := by
    intro l hl
    obtain ⟨r, hr, hl⟩ := List.mem_flatMap.1 hl
    obtain ⟨line, hline, rfl⟩ := List.mem_map.1 hl
    exact Rule.fits_printedLines (h r hr) line hline
  have hlines : (p.rules.flatMap Rule.printedFile).map Prod.fst = p.rules.flatMap Rule.printedLines := by
    rw [List.map_flatMap]
    exact List.flatMap_congr fun r _ => by simp [Rule.printedFile, Function.comp_def]
  have hread := result_parseText_source true hfits settings
  rw [hlines, Rule.gather_printedLines, ← Program.toList_format, String.ofList_toList] at hread
  exact hread

/-! ## Programs that come back as they are -/

abbrev Rule.IsPlain (rule : Rule) : Prop := rule.MadeOf Term.IsWord

namespace Rule

theorem IsPlain.printsTarget {rule : Rule} (h : rule.IsPlain) : rule.printsTarget = true := by
  obtain ⟨target, prerequisites, recipe, expanded⟩ := rule
  obtain ⟨hname⟩ := h.target
  apply bne_iff_ne.2
  rintro rfl
  cases hname

theorem IsPlain.printsWords {rule : Rule} (h : rule.IsPlain) : rule.PrintsWords := by
  refine ⟨?_, fun t ht => (h.prerequisites t ht).isWords, fun line hl t ht => (h.recipe line hl t ht).isWords⟩
  obtain ⟨target, prerequisites, recipe, expanded⟩ := rule
  obtain ⟨hname⟩ := h.target
  exact .inr hname

theorem IsPlain.readBack {rule : Rule} (h : rule.IsPlain) : rule.readBack = rule := by
  have hrecipe : rule.recipe.map wordsOfTerms = rule.recipe :=
    (List.map_congr_left fun line hl => wordsOfTerms_of_isWord (h.recipe line hl)).trans (List.map_id' _)
  rw [Rule.readBack, wordsOfTerms_of_isWord h.prerequisites, hrecipe, ← h.expanded]
  obtain ⟨target, prerequisites, recipe, expanded⟩ := rule
  obtain ⟨-⟩ := h.target
  rfl

theorem isPlain_readBack {rule : Rule} (h : rule.PrintsWords) (hprints : rule.printsTarget = true) :
    rule.readBack.IsPlain := by
  have hname := h.target.resolve_left (bne_iff_ne.1 hprints)
  refine ⟨.identifier hname, isWord_of_mem_wordsOfTerms h.prerequisites, ?_, rfl⟩
  intro line hline
  obtain ⟨terms, hterms, rfl⟩ := List.mem_map.1 hline
  exact isWord_of_mem_wordsOfTerms (h.recipe terms hterms)

theorem map_readBack_filter {rules : List Rule} (h : ∀ r ∈ rules, r.IsPlain) :
    (rules.filter Rule.printsTarget).map Rule.readBack = rules := by
  have hfilter : rules.filter Rule.printsTarget = rules := List.filter_eq_self.2 fun r hr => (h r hr).printsTarget
  rw [hfilter]
  exact (List.map_congr_left fun r hr => (h r hr).readBack).trans (List.map_id' rules)

end Rule

namespace Program

def IsPlain (p : Program) : Prop := ∀ s ∈ p.statements, ∃ r : Rule, s = .rule r ∧ r.IsPlain

theorem map_rule_rules : ∀ {statements : List Statement}, (∀ s ∈ statements, ∃ r : Rule, s = .rule r ∧ r.IsPlain) →
    (statements.filterMap Statement.rule?).map .rule = statements
  | [],              _ => rfl
  | s :: statements, h => by
    obtain ⟨r, rfl, -⟩ := h s List.mem_cons_self
    exact congrArg (.rule r :: ·) (map_rule_rules fun t ht => h t (List.mem_cons_of_mem _ ht))

theorem IsPlain.rules {p : Program} (h : p.IsPlain) : ∀ r ∈ p.rules, r.IsPlain := by
  intro r hr
  obtain ⟨s, hs, hrule⟩ := List.mem_filterMap.1 hr
  obtain ⟨r', rfl, hplain⟩ := h s hs
  obtain rfl : r' = r := Option.some.inj hrule
  exact hplain

theorem statements_readBack {p : Program} (h : p.IsPlain) : p.readBack.statements = p.statements := by
  rw [readBack, Rule.map_readBack_filter h.rules]
  exact map_rule_rules h

theorem rules_addRules (rules : List Rule) : (Program.empty.addRules rules).rules = rules := by
  rw [Program.rules, addRules, List.filterMap_append, List.filterMap_map]
  exact List.filterMap_some

theorem rules_readBack (p : Program) :
    p.readBack.rules = (p.rules.filter Rule.printsTarget).map Rule.readBack := rules_addRules _

theorem isPlain_rules_readBack {p : Program} (h : ∀ r ∈ p.rules, r.PrintsWords) :
    ∀ r ∈ p.readBack.rules, r.IsPlain := by
  intro r hr
  rw [rules_readBack] at hr
  obtain ⟨r', hr', rfl⟩ := List.mem_map.1 hr
  obtain ⟨hmem, hprints⟩ := List.mem_filter.1 hr'
  exact Rule.isPlain_readBack (h r' hmem) hprints

theorem readBack_readBack {p : Program} (h : ∀ r ∈ p.rules, r.PrintsWords) : p.readBack.readBack = p.readBack := by
  have hrules := Rule.map_readBack_filter (isPlain_rules_readBack h)
  rw [readBack, hrules, rules_readBack]
  rfl

end Program

/-- **A printed program is read back as its words.**  The rules whose target stands for a name come back in their order,
made of the words that they print, and nothing else does.  A program of plain rules comes back as it is and prints the
same text again, and so does every program that was read back. -/
theorem result_parseText_format (p : Program) (h : ∀ r ∈ p.rules, r.PrintsWords) (settings : Settings) :
    (parseText settings p.format).result =
      .ok (Program.empty.addRules ((p.rules.filter Rule.printsTarget).map Rule.readBack)) ∧
    (p.IsPlain → p.readBack.statements = p.statements ∧ p.readBack.format = p.format) ∧
    (parseText settings p.readBack.format).result = .ok p.readBack := by
  refine ⟨Program.result_parseText_readBack h settings, ?_, ?_⟩
  · intro hplain
    have hstatements := Program.statements_readBack hplain
    refine ⟨hstatements, ?_⟩
    rw [Program.format, Program.output, hstatements]
    rfl
  · have hplain := Program.isPlain_rules_readBack h
    have hread := Program.result_parseText_readBack (fun r hr => (hplain r hr).printsWords) settings
    rwa [Program.readBack_readBack h] at hread

/-- A rule whose target stands for nothing, in front of one that has been expanded. -/
def expandedPair : Program :=
  ⟨[.rule ⟨.named "X", [.identifier "a"], [[.identifier "b"]], false⟩, .assignment (.identifier "C") [],
    .rule ⟨.reference "OUT" "app", [.command [.identifier "a", .named "E", .identifier "b.c"]],
      [[], [.reference "$^" "a b"]], true⟩], .empty⟩

theorem result_parseText_expandedPair : (∀ r ∈ expandedPair.rules, r.PrintsWords) ∧
    expandedPair.format = ": a\n\tb\napp: a  b.c\n\t\n\ta b\n" ∧
    (parseText {} expandedPair.format).result =
      .ok ⟨[.rule ⟨.identifier "app", [.identifier "a", .identifier "b.c"], [[], [.identifier "a", .identifier "b"]],
        false⟩], .empty⟩ ∧
    expandedPair.readBack.IsPlain ∧
    expandedPair.readBack.readBack.statements = expandedPair.readBack.statements := by
  have h : ∀ r ∈ expandedPair.rules, r.PrintsWords := by
    intro r hr
    rcases List.mem_cons.1 hr with rfl | hr
    · exact ⟨.inl rfl, by decide, by decide⟩
    · obtain rfl := List.mem_singleton.1 hr
      exact ⟨.inr (by decide), by decide, by decide⟩
  have hplain : expandedPair.readBack.IsPlain := by
    intro s hs
    obtain rfl := List.mem_singleton.1 hs
    exact ⟨_, rfl, Rule.isPlain_readBack (h _ (.tail _ (.head _))) rfl⟩
  have hwords : ∀ r ∈ expandedPair.readBack.rules, r.PrintsWords := fun r hr => (hplain.rules r hr).printsWords
  exact ⟨h, by decide, (result_parseText_format expandedPair h {}).1, hplain,
    ((result_parseText_format expandedPair.readBack hwords {}).2.1 hplain).1⟩

end RuleFile
