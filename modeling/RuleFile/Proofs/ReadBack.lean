import RuleFile.Proofs.Carets
import RuleFile.Proofs.Filling
import RuleFile.Proofs.ReadTerms
/-!
# Reading back what was read

What is read from a text, expanded or not, and printed can be read again unless a reference to all prerequisites was
left as it is (`result_parseText_toPrint`): expansion fills those in recipes, but not those in front of them.  What
comes back is made of names, and printing and reading do not change it any more.
-/
namespace RuleFile

open Grammar

/-! ## References to all prerequisites -/

/-- A reference `$<`, whether it has been filled or not. -/
def Term.isAllPrerequisites : Term → Bool
  | reference name _ => name == allPrerequisitesName
  | _                => false

/-- A rule that refers to all prerequisites where nothing fills the reference: in front of its recipe, or in it if the
rule has not been expanded. -/
def Rule.LeavesReference (expanding : Bool) (rule : Rule) : Prop :=
  rule.target.isAllPrerequisites = true ∨ (∃ t ∈ rule.prerequisites, t.isAllPrerequisites = true) ∨
    (expanding = false ∧ ∃ line ∈ rule.recipe, ∃ t ∈ line, t.isAllPrerequisites = true)

theorem ne_allPrerequisitesName_of_isWords {value : String} (h : isWords value = true) :
    value ≠ Term.allPrerequisitesName := by
  rintro rfl
  revert h
  decide

theorem ne_allPrerequisitesName_of_isName {name : String} (h : isName name.toList = true) :
    name ≠ Term.allPrerequisitesName := by
  rintro rfl
  revert h
  decide

namespace Term

theorem IsWritable.isPrinted {t : Term} (h : t.IsWritable) : isPrinted t.value = true := by
  cases h with
  | identifier h     => exact Bool.or_eq_true_iff.2 (.inl (IsWord.identifier h).isWords)
  | named h          => rfl
  | allPrerequisites => decide

theorem IsWritable.value_eq_iff {t : Term} (h : t.IsWritable) :
    t.value = allPrerequisitesName ↔ t.isAllPrerequisites = true := by
  cases h with
  | identifier h     => exact ⟨fun heq => absurd heq (ne_allPrerequisitesName_of_isName h), nofun⟩
  | named h          =>
    have hname := ne_allPrerequisitesName_of_isName h
    have hempty : "" ≠ allPrerequisitesName := by decide
    exact ⟨fun heq => absurd heq hempty, fun heq => absurd (beq_iff_eq.1 heq) hname⟩
  | allPrerequisites => exact ⟨fun _ => by decide, fun _ => rfl⟩

theorem IsWritable.isWords_fill {t : Term} (h : t.IsWritable) {value : String} (hvalue : isWords value = true) :
    isWords (t.fill value).value = true := by
  cases h with
  | identifier h     => exact (IsWord.identifier h).isWords
  | named h          =>
    rw [Term.named, Term.fill, if_neg (ne_allPrerequisitesName_of_isName h)]
    rfl
  | allPrerequisites => exact hvalue

theorem IsRead.isSimple {P : String → Prop} {t : Term} (h : t.IsRead P) : t.isSimple = true := by
  cases h <;> rfl

theorem IsWord.fill {t : Term} (h : t.IsWord) (value : String) : t.fill value = t := by
  cases h
  rfl

end Term

/-! ## Rules -/

namespace Rule

theorem MadeOf.isSimple {P : String → Prop} {rule : Rule} (h : rule.MadeOf (Term.IsRead P)) : rule.IsSimple :=
  ⟨fun t ht => (h.prerequisites t ht).isSimple, fun line hline t ht => (h.recipe line hline t ht).isSimple⟩

theorem IsWritable.isWords_joinedNames {rule : Rule} (h : rule.IsWritable) {separator : String}
    (hseparator : ∀ c ∈ separator.toList, Text.isAlphabetic c = true ∨ c = ' ') :
    isWords (rule.joinedNames separator) = true := by
  apply isWords_intercalate hseparator
  intro name hname
  obtain ⟨t, ht, heq⟩ := List.mem_filterMap.1 hname
  cases h.prerequisites t ht with
  | identifier h     => cases heq; exact h
  | named h          => cases heq
  | allPrerequisites => cases heq

section

variable {rule : Rule}

theorem IsWritable.isPrinted_target (h : rule.IsWritable) :
    rule.target.value = "" ∨ (Term.identifier rule.target.value).IsPrinted := by
  obtain ⟨target, prerequisites, recipe, expanded⟩ := rule
  cases h.target with
  | identifier hname => exact .inr (.name hname)
  | named hname      => exact .inl rfl
  | allPrerequisites => exact .inr .caret

theorem IsWritable.isPrinted (h : rule.IsWritable) : rule.IsPrinted :=
  ⟨h.isPrinted_target, fun t ht => (h.prerequisites t ht).isPrinted,
    fun line hline t ht => (h.recipe line hline t ht).isPrinted⟩

/-- Unless it is expanded, a rule prints `$^` for each of its references to all prerequisites. -/
theorem IsWritable.printsCaret_iff (h : rule.IsWritable) : rule.PrintsCaret ↔ rule.LeavesReference false := by
  refine or_congr h.target.value_eq_iff (or_congr ?_ ?_)
  · exact exists_congr fun t => and_congr_right fun ht => (h.prerequisites t ht).value_eq_iff
  · refine (exists_congr fun line => and_congr_right fun hline => ?_).trans (and_iff_right rfl).symm
    exact exists_congr fun t => and_congr_right fun ht => (h.recipe line hline t ht).value_eq_iff

variable {separator : String}

theorem isWords_recipe_filled (h : rule.IsWritable)
    (hseparator : ∀ c ∈ separator.toList, Text.isAlphabetic c = true ∨ c = ' ') :
    ∀ line ∈ (rule.filled separator).recipe, ∀ t ∈ line, isWords t.value = true := by
  intro line hline t ht
  obtain ⟨terms, hterms, rfl⟩ := List.mem_map.1 hline
  obtain ⟨u, hu, rfl⟩ := List.mem_map.1 ht
  exact (h.recipe terms hterms u hu).isWords_fill (h.isWords_joinedNames hseparator)

theorem IsWritable.isPrinted_filled (h : rule.IsWritable)
    (hseparator : ∀ c ∈ separator.toList, Text.isAlphabetic c = true ∨ c = ' ') : (rule.filled separator).IsPrinted :=
  ⟨h.isPrinted_target, fun t ht => (h.prerequisites t ht).isPrinted,
    fun line hline t ht => Bool.or_eq_true_iff.2 (.inl (isWords_recipe_filled h hseparator line hline t ht))⟩

/-- A rule that is expanded prints words in its recipe. -/
theorem IsWritable.printsCaret_filled_iff (h : rule.IsWritable)
    (hseparator : ∀ c ∈ separator.toList, Text.isAlphabetic c = true ∨ c = ' ') :
    (rule.filled separator).PrintsCaret ↔ (rule.filled separator).LeavesReference true := by
  refine or_congr h.target.value_eq_iff (or_congr ?_ ⟨?_, nofun⟩)
  · exact exists_congr fun t => and_congr_right fun ht => (h.prerequisites t ht).value_eq_iff
  · rintro ⟨line, hline, t, ht, hvalue⟩
    exact absurd hvalue (ne_allPrerequisitesName_of_isWords (isWords_recipe_filled h hseparator line hline t ht))

/-- Nothing is filled in a plain rule. -/
theorem IsPlain.filled (h : rule.IsPlain) (separator : String) :
    rule.filled separator = { rule with expanded := true } := by
  have hrecipe : rule.recipe.map (·.map (Term.fill (rule.joinedNames separator))) = rule.recipe := by
    refine (List.map_congr_left fun line hline => ?_).trans (List.map_id' _)
    exact (List.map_congr_left fun t ht => (h.recipe line hline t ht).fill _).trans (List.map_id' _)
  rw [Rule.filled, hrecipe]

end
end Rule

theorem Rule.IsPlain.isWritable {rule : Rule} (h : rule.IsPlain) : rule.IsWritable :=
  h.imp fun _ => Term.IsWord.isWritable

/-! ## Programs -/

namespace Program

/-- A program as it is printed: expanded, or as it was read. -/
def toPrint (expanding : Bool) (settings : Settings) (program : Program) : Expansion :=
  if expanding then program.expand settings else ⟨program, [], .ok ()⟩

theorem toPrint_addRules {rules : List Rule} (h : ∀ r ∈ rules, r.IsWritable) (expanding : Bool) {settings : Settings}
    (hseparator : ∀ c ∈ settings.separator.toList, Text.isAlphabetic c = true ∨ c = ' ') :
    ((Program.empty.addRules rules).toPrint expanding settings).outcome = .ok () ∧
      ∀ r ∈ ((Program.empty.addRules rules).toPrint expanding settings).program.rules,
        r.IsPrinted ∧ (r.PrintsCaret ↔ r.LeavesReference expanding) := by
  cases expanding with
  | false =>
    refine ⟨rfl, fun r hr => ?_⟩
    have hr : r ∈ (Program.empty.addRules rules).rules := hr
    rw [rules_addRules] at hr
    exact ⟨(h r hr).isPrinted, (h r hr).printsCaret_iff⟩
  | true =>
    obtain ⟨houtcome, hrules⟩ := expand_addRules (fun r hr => (h r hr).isSimple) settings
    refine ⟨houtcome, fun r hr => ?_⟩
    have hr : r ∈ ((Program.empty.addRules rules).expand settings).program.rules := hr
    rw [hrules] at hr
    obtain ⟨r', hr', rfl⟩ := List.mem_map.1 hr
    exact ⟨(h r' hr').isPrinted_filled hseparator, (h r' hr').printsCaret_filled_iff hseparator⟩

/-- Expanding plain rules does not change what they print. -/
theorem expand_of_isPlain {rules : List Rule} (h : ∀ r ∈ rules, r.IsPlain) (settings : Settings) :
    ((Program.empty.addRules rules).expand settings).outcome = .ok () ∧
      ((Program.empty.addRules rules).expand settings).program.format = (Program.empty.addRules rules).format := by
  obtain ⟨houtcome, hrules⟩ := expand_addRules (fun r hr => (h r hr).isWritable.isSimple) settings
  refine ⟨houtcome, String.toList_inj.1 ?_⟩
  rw [toList_format, toList_format, hrules, rules_addRules, List.flatMap_map]
  refine congrArg _ (List.flatMap_congr fun r hr => ?_)
  rw [(h r hr).filled]
  rfl

theorem isPlain_readBack {p : Program} (h : ∀ r ∈ p.rules, r.PrintsWords) : p.readBack.IsPlain := by
  intro s hs
  obtain ⟨r, hr, rfl⟩ := List.mem_map.1 hs
  refine ⟨r, rfl, isPlain_rules_readBack h r ?_⟩
  rwa [readBack, rules_addRules]

/-- What comes back of words comes back as it is, expanded or not. -/
theorem readBack_stays {p : Program} (h : ∀ r ∈ p.rules, r.PrintsWords) (back : Settings) :
    (parseText back p.readBack.format).result = .ok p.readBack ∧ ∀ settings : Settings,
      (p.readBack.expand settings).outcome = .ok () ∧
        (p.readBack.expand settings).program.format = p.readBack.format := by
  have hplain := isPlain_rules_readBack h
  refine ⟨?_, fun settings => ?_⟩
  · have hread := result_parseText_readBack (fun r hr => (hplain r hr).printsWords) back
    rwa [readBack_readBack h] at hread
  · rw [rules_readBack] at hplain
    exact expand_of_isPlain hplain settings

end Program

/-- **When the output can be read back.**  A program that was read, expanded or not, and printed cannot be read exactly
if one of its rules has a reference to all prerequisites left, and then a caret is what is wrong.  If it can, what comes
back is made of names only, is read back from its own text as it is, and prints the same text after any expansion. -/
theorem result_parseText_toPrint {settings : Settings} {text : String} {p₀ p : Program} (expanding : Bool)
    (hseparator : ∀ c ∈ settings.separator.toList, Text.isAlphabetic c = true ∨ c = ' ')
    (hread : (parseText settings text).result = .ok p₀) (hp : p = (p₀.toPrint expanding settings).program)
    (back : Settings) :
    (p₀.toPrint expanding settings).outcome = .ok () ∧
    ((∃ e, (parseText back p.format).result = .error e) ↔ ∃ r ∈ p.rules, r.LeavesReference expanding) ∧
    (∀ e, (parseText back p.format).result = .error e → ∃ place, e = .lex ⟨.unexpectedCharacter '^', place⟩) ∧
    (∀ q, (parseText back p.format).result = .ok q →
      q.IsPlain ∧ (parseText back q.format).result = .ok q ∧ ∀ later : Settings,
        (q.expand later).outcome = .ok () ∧ (q.expand later).program.format = q.format) := by
  have hnotes : (read settings .statement (Scanner.ofText text)).account.result .empty = .ok p₀ := hread
  obtain ⟨-, rfl⟩ := Account.result_eq_ok.1 hnotes
  have hwritable : ∀ r ∈ Note.rules (read settings .statement (Scanner.ofText text)).account.notes, r.IsWritable :=
    isWritable_of_parseText settings text
  obtain ⟨houtcome, hprinted⟩ := Program.toPrint_addRules hwritable expanding hseparator
  rw [← hp] at hprinted
  refine ⟨houtcome, ?_⟩
  by_cases hcaret : ∃ r ∈ p.rules, r.PrintsCaret
  · obtain ⟨place, herror⟩ := Program.result_parseText_caret (fun r hr => (hprinted r hr).1) hcaret back
    obtain ⟨r, hr, hr'⟩ := hcaret
    rw [herror]
    refine ⟨⟨fun _ => ⟨r, hr, (hprinted r hr).2.1 hr'⟩, fun _ => ⟨_, rfl⟩⟩, fun e he => ?_, nofun⟩
    exact ⟨place, (Except.error.inj he).symm⟩
  · have hwords : ∀ r ∈ p.rules, r.PrintsWords := fun r hr =>
      (hprinted r hr).1.printsWords fun h => hcaret ⟨r, hr, h⟩
    rw [Program.result_parseText_readBack hwords]
    refine ⟨⟨nofun, fun ⟨r, hr, hleft⟩ => ?_⟩, nofun, fun q hq => ?_⟩
    · exact absurd ⟨r, hr, (hprinted r hr).2.2 hleft⟩ hcaret
    · obtain rfl := Except.ok.inj hq
      exact ⟨Program.isPlain_readBack hwords, Program.readBack_stays hwords back⟩

/-- The rule of `a:b c` with a recipe line `$<`. -/
def fillable : Program :=
  ⟨[.rule ((((Rule.named "a").prerequisite "b").prerequisite "c").command [.allPrerequisites])], .empty⟩

/-- The same with its reference filled, as it comes back. -/
def filledBack : Program :=
  ⟨[.rule ((((Rule.named "a").prerequisite "b").prerequisite "c").command [.identifier "b", .identifier "c"])], .empty⟩

/-- Expanded, it is read back; as it was read, it is not. -/
theorem result_parseText_fillable :
    (parseText ⟨false, " "⟩ "a:b c\n\t$<").result = .ok fillable ∧
    (fillable.toPrint true ⟨false, " "⟩).program.format = "a: b c\n\tb c\n" ∧
    (parseText {} (fillable.toPrint true ⟨false, " "⟩).program.format).result = .ok filledBack ∧
    filledBack.IsPlain ∧ (parseText {} filledBack.format).result = .ok filledBack ∧
    ∃ e, (parseText {} (fillable.toPrint false ⟨false, " "⟩).program.format).result = .error e := by
  have hread : (parseText ⟨false, " "⟩ "a:b c\n\t$<").result = .ok fillable := by cbv
  have hseparator : ∀ c ∈ (" " : String).toList, Text.isAlphabetic c = true ∨ c = ' ' := by
    intro c hc
    exact .inr (List.mem_singleton.1 hc)
  have hback : (parseText {} (fillable.toPrint true ⟨false, " "⟩).program.format).result = .ok filledBack := by cbv
  have hleft : ∃ r ∈ (fillable.toPrint false ⟨false, " "⟩).program.rules, r.LeavesReference false :=
    ⟨_, List.mem_singleton.2 rfl, .inr (.inr ⟨rfl, _, List.mem_singleton.2 rfl, _, List.mem_singleton.2 rfl, rfl⟩)⟩
  obtain ⟨-, -, -, hstays⟩ := result_parseText_toPrint true hseparator hread rfl {}
  obtain ⟨-, hfails, -, -⟩ := result_parseText_toPrint false hseparator hread rfl {}
  obtain ⟨hplain, hagain, -⟩ := hstays filledBack hback
  exact ⟨hread, by cbv, hback, hplain, hagain, hfails.2 hleft⟩

end RuleFile
