import RuleFile.Expansion
import RuleFile.Proofs.RoundTrip
/-!
# Expanding rules of identifiers and references

Where no recipe line stands among the terms, expansion goes through, and each rule is filled on its own
(`expand_addRules`).  What it fills in are the names of prerequisites with a separator between them; if this has letters
and spaces only, that is words again (`isWords_intercalate`).
-/
namespace RuleFile

/-! ## One rule -/

/-- A rule that has no recipe line among its terms. -/
structure Rule.IsSimple (rule : Rule) : Prop where
  prerequisites : ∀ t ∈ rule.prerequisites, t.isSimple = true
  recipe        : ∀ line ∈ rule.recipe, ∀ t ∈ line, t.isSimple = true

def Term.identifier? : Term → Option String
  | identifier name => some name
  | _               => none

namespace Rule

/-- The names of the prerequisites that are identifiers, with a separator between them. -/
def joinedNames (separator : String) (rule : Rule) : String :=
  separator.intercalate (rule.prerequisites.filterMap Term.identifier?)

/-- A rule with its references to all prerequisites filled. -/
def filled (separator : String) (rule : Rule) : Rule :=
  { rule with recipe := rule.recipe.map (·.map (Term.fill (rule.joinedNames separator))), expanded := true }

theorem prerequisiteNames?_eq : ∀ {terms : List Term}, (∀ t ∈ terms, t.isSimple = true) →
    prerequisiteNames? terms = some (terms.filterMap Term.identifier?)
  | [],                        _ => rfl
  | .identifier name :: terms, h => by
    have hlater := prerequisiteNames?_eq fun t ht => h t (List.mem_cons_of_mem _ ht)
    rw [prerequisiteNames?, hlater]
    rfl
  | .reference _ _ :: terms,   h => by
    have hlater := prerequisiteNames?_eq fun t ht => h t (List.mem_cons_of_mem _ ht)
    rw [prerequisiteNames?, hlater]
    rfl
  | .command _ :: _,           h => by cases h _ List.mem_cons_self

theorem fillLine_cons (value : String) {t : Term} (h : t.isSimple = true) (line : RecipeLine) :
    fillLine value (t :: line) = (t.fill value :: (fillLine value line).1, (fillLine value line).2) := by
  cases t with
  | command terms => cases h
  | _             => rfl

theorem fillLine_eq (value : String) : ∀ {line : RecipeLine}, (∀ t ∈ line, t.isSimple = true) →
    fillLine value line = (line.map (Term.fill value), true)
  | [],        _ => rfl
  | t :: line, h => by
    have hlater := fillLine_eq value fun u hu => h u (List.mem_cons_of_mem t hu)
    rw [fillLine_cons value (h t List.mem_cons_self), hlater]
    rfl

theorem fillRecipe_eq (value : String) : ∀ {recipe : List RecipeLine},
    (∀ line ∈ recipe, ∀ t ∈ line, t.isSimple = true) →
    fillRecipe value recipe = (recipe.map (·.map (Term.fill value)), true)
  | [],             _ => rfl
  | line :: recipe, h => by
    have hlater := fillRecipe_eq value fun l hl => h l (List.mem_cons_of_mem line hl)
    rw [fillRecipe, fillLine_eq value (h line List.mem_cons_self)]
    simp only [hlater, List.map_cons]

theorem expand_of_isSimple {rule : Rule} (h : rule.IsSimple) (separator : String) :
    rule.expand separator = (rule.filled separator, .ok (rule.joinedNames separator)) := by
  rw [expand, prerequisiteNames?_eq h.prerequisites]
  simp only [fillRecipe_eq _ h.recipe]
  rfl

end Rule

/-! ## Programs of rules -/

theorem expandStatements_map_rule (separator : String) : ∀ {rules : List Rule}, (∀ r ∈ rules, r.IsSimple) →
    ∀ symbols : Symbols,
      (expandStatements separator (rules.map .rule) symbols).outcome = .ok () ∧
        (expandStatements separator (rules.map .rule) symbols).program.statements =
          rules.map fun r => .rule (r.filled separator)
  | [],         _, _       => ⟨rfl, rfl⟩
  | r :: rules, h, symbols => by
    have hlater := expandStatements_map_rule separator (fun r' hr' => h r' (List.mem_cons_of_mem r hr'))
      (symbols.define Term.allPrerequisitesName (r.joinedNames separator))
    rw [List.map_cons, expandStatements, Rule.expand_of_isSimple (h r List.mem_cons_self)]
    exact ⟨hlater.1, congrArg (Statement.rule (r.filled separator) :: ·) hlater.2⟩

/-- **Rules without recipe lines among their terms are expanded one by one**, and always to the end. -/
theorem expand_addRules {rules : List Rule} (h : ∀ r ∈ rules, r.IsSimple) (settings : Settings) :
    ((Program.empty.addRules rules).expand settings).outcome = .ok () ∧
      ((Program.empty.addRules rules).expand settings).program.rules = rules.map (Rule.filled settings.separator) := by
  obtain ⟨houtcome, hstatements⟩ := expandStatements_map_rule settings.separator h .empty
  refine ⟨houtcome, ?_⟩
  show ((expandStatements settings.separator (rules.map .rule) .empty).program.statements).filterMap _ = _
  rw [hstatements, List.filterMap_map]
  show rules.filterMap (fun r => some (r.filled settings.separator)) = _
  rw [List.filterMap_eq_map']

/-! ## Joined names -/

/-- Letters and spaces, and points that stand behind a letter or a point. -/
def spellsWords : Bool → List Char → Bool
  | _,      []      => true
  | inWord, c :: cs =>
    if c = ' ' then spellsWords false cs
    else (Text.isAlphabetic c || (inWord && c == '.')) && spellsWords true cs

theorem spellsWords_true : ∀ {cs : List Char}, spellsWords false cs = true → spellsWords true cs = true
  | [],      _ => rfl
  | c :: cs, h => by
    rw [spellsWords] at h ⊢
    split at h
    · rwa [if_pos ‹_›]
    · rw [if_neg ‹_›]
      simp only [Bool.false_and, Bool.or_false, Bool.and_eq_true] at h
      rw [h.1, h.2]
      rfl

theorem spellsWords_append {later : List Char} (hlater : spellsWords false later = true) :
    ∀ {inWord : Bool} {cs : List Char}, spellsWords inWord cs = true → spellsWords inWord (cs ++ later) = true
  | true,   [],      _ => spellsWords_true hlater
  | false,  [],      _ => hlater
  | inWord, c :: cs, h => by
    rw [List.cons_append, spellsWords]
    rw [spellsWords] at h
    split at h
    · rw [if_pos ‹_›]
      exact spellsWords_append hlater h
    · rw [if_neg ‹_›]
      obtain ⟨hc, hcs⟩ := Bool.and_eq_true_iff.1 h
      rw [hc, spellsWords_append hlater hcs]
      rfl

theorem spellsWords_of_forall_mem : ∀ {cs : List Char}, (∀ c ∈ cs, Text.isAlphabetic c = true ∨ c = ' ') →
    spellsWords false cs = true
  | [],      _ => rfl
  | c :: cs, h => by
    have hlater := spellsWords_of_forall_mem fun d hd => h d (List.mem_cons_of_mem c hd)
    rw [spellsWords]
    split
    · exact hlater
    · rw [(h c List.mem_cons_self).resolve_right ‹_›, spellsWords_true hlater]
      rfl

theorem spellsWords_of_isNameCharacter : ∀ {cs : List Char}, (∀ c ∈ cs, isNameCharacter c = true) →
    spellsWords true cs = true
  | [],      _ => rfl
  | c :: cs, h => by
    have hlater := spellsWords_of_isNameCharacter fun d hd => h d (List.mem_cons_of_mem c hd)
    have hc : (Text.isAlphabetic c || c == '.') = true := h c List.mem_cons_self
    have hspace : c ≠ ' ' := by
      rintro rfl
      revert hc
      decide
    rw [spellsWords, if_neg hspace, Bool.true_and, hc, hlater]
    rfl

theorem spellsWords_of_isName {cs : List Char} (h : isName cs = true) : spellsWords false cs = true := by
  cases cs with
  | nil       => rfl
  | cons c cs =>
    obtain ⟨hc, hcs⟩ := Bool.and_eq_true_iff.1 h
    have hlater := spellsWords_of_isNameCharacter (List.all_eq_true.1 hcs)
    rw [spellsWords, if_neg (ne_of_isAlphabetic hc (by decide)), hc, hlater]
    rfl

/-- The first of the words may have begun in front of the text. -/
theorem splitOn_of_spellsWords : ∀ {inWord : Bool} {cs : List Char}, spellsWords inWord cs = true →
    ∃ w words, cs.splitOn ' ' = w :: words ∧ (∀ d ∈ w, isNameCharacter d = true) ∧
      (inWord = false → (w.isEmpty || isName w) = true) ∧ words.all (fun w => w.isEmpty || isName w) = true
  | _,      [],      _ => ⟨[], [], List.splitOn_nil ' ', fun _ hd => (List.not_mem_nil hd).elim, fun _ => rfl, rfl⟩
  | inWord, c :: cs, h => by
    rw [spellsWords] at h
    split at h
    · rename_i hc
      obtain ⟨w, words, hsplit, -, hw, hwords⟩ := splitOn_of_spellsWords h
      refine ⟨[], w :: words, ?_, fun _ hd => (List.not_mem_nil hd).elim, fun _ => rfl, ?_⟩
      · rw [List.splitOn_cons_eq_if_modifyHead, if_pos (beq_iff_eq.2 hc), hsplit]
      · rw [List.all_cons, hw rfl, hwords]
        rfl
    · rename_i hc
      obtain ⟨hletter, hlater⟩ := Bool.and_eq_true_iff.1 h
      obtain ⟨w, words, hsplit, hchars, -, hwords⟩ := splitOn_of_spellsWords hlater
      -- only a word that began in front of the text may go on with a point
      refine ⟨c :: w, words, ?_, ?_, ?_, hwords⟩
      · rw [List.splitOn_cons_eq_if_modifyHead, if_neg (by simpa using hc), hsplit]
        rfl
      · refine List.forall_mem_cons.2 ⟨?_, hchars⟩
        cases inWord with
        | true  => exact hletter
        | false => exact Bool.or_eq_true_iff.2 (.inl (by simpa using hletter))
      · rintro rfl
        have hc : Text.isAlphabetic c = true := by simpa using hletter
        rw [isName, hc, List.all_eq_true.2 hchars]
        rfl

theorem isWords_of_spellsWords {value : String} (h : spellsWords false value.toList = true) : isWords value = true := by
  obtain ⟨w, words, hsplit, -, hw, hwords⟩ := splitOn_of_spellsWords h
  rw [isWords, hsplit, List.all_cons, hw rfl, hwords]
  rfl

theorem spellsWords_intercalate {separator : List Char} (hseparator : spellsWords false separator = true) :
    ∀ {names : List (List Char)}, (∀ name ∈ names, isName name = true) →
      spellsWords false (separator.intercalate names) = true
  | [],                    _ => rfl
  | [name],                h => by
    rw [List.intercalate_singleton]
    exact spellsWords_of_isName (h name List.mem_cons_self)
  | name :: name' :: names, h => by
    have hlater := spellsWords_intercalate hseparator fun n hn => h n (List.mem_cons_of_mem name hn)
    rw [List.intercalate_cons_cons, List.append_assoc]
    exact spellsWords_append (spellsWords_append hlater hseparator) (spellsWords_of_isName (h name List.mem_cons_self))

/-- **Joined names are words**, if they are joined by letters and spaces. -/
theorem isWords_intercalate {separator : String}
    (hseparator : ∀ c ∈ separator.toList, Text.isAlphabetic c = true ∨ c = ' ') {names : List String}
    (h : ∀ name ∈ names, isName name.toList = true) : isWords (separator.intercalate names) = true := by
  apply isWords_of_spellsWords
  rw [String.toList_intercalate]
  apply spellsWords_intercalate (spellsWords_of_forall_mem hseparator)
  intro name hname
  obtain ⟨name', hname', rfl⟩ := List.mem_map.1 hname
  exact h name' hname'

end RuleFile
