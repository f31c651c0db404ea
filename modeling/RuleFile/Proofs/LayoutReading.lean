import RuleFile.Proofs.Layouts
import RuleFile.Proofs.TextReading
/-!
# Reading a layout

A text that is laid out is read as the rules it was made from, and its layout does not matter.  Line by line: a header
opens a rule with its terms (`readStatements_header`), and what stands under no target, a line of a recipe or the rest
of a header, leaves nothing (`readStatements_orphan`).  `gather` says which rules the lines make together.
-/
namespace RuleFile

open Grammar Lines

/-! ## No line breaks within a line -/

/-- The tokens that are no literals. -/
def Lexeme.isPlain : Lexeme → Bool
  | token kind _ _ => kind != .singleQuoteLiteral && kind != .doubleQuoteLiteral
  | failure _      => false

def Lexeme.inLine : Lexeme → Bool
  | token kind text n => kind != .newline && (token kind text n).isPlain
  | failure _         => false

theorem Lexeme.isPlain_of_inLine {lexeme : Lexeme} (h : lexeme.inLine = true) : lexeme.isPlain = true := by
  cases lexeme with
  | token kind text n => exact (Bool.and_eq_true_iff.1 h).2
  | failure _         => cases h

theorem Lexeme.isToken_of_isPlain {lexeme : Lexeme} (h : lexeme.isPlain = true) : lexeme.isToken = true := by
  cases lexeme with
  | token _ _ _ => rfl
  | failure _   => cases h

theorem Term.forall_mem_lexemes (t : Term) : ∀ lexeme ∈ t.lexemes, lexeme.inLine = true := by
  unfold Term.lexemes
  split
  · simp [Lexeme.name, Lexeme.inLine, Lexeme.isPlain]
  · split <;> simp [Lexeme.name, Lexeme.mark, Lexeme.inLine, Lexeme.isPlain]
  · simp

theorem Item.forall_mem_lexemesOf (items : List Item) : ∀ lexeme ∈ lexemesOf items, lexeme.inLine = true := by
  intro lexeme h
  obtain ⟨item, -, h⟩ := List.mem_flatMap.1 h
  cases item with
  | space  => rw [List.mem_singleton.1 h]; rfl
  | term t => exact t.forall_mem_lexemes lexeme h

theorem LineLayout.forall_mem_lexemes (line : LineLayout) : ∀ lexeme ∈ line.lexemes, lexeme.inLine = true := by
  intro lexeme h
  rcases List.mem_append.1 h with h | h
  · exact Item.forall_mem_lexemesOf _ lexeme h
  rcases List.mem_cons.1 h with rfl | h
  · cases line <;> rfl
  · exact Item.forall_mem_lexemesOf _ lexeme h

theorem kind_ne_newline_of_inLine {p : Position} {lexemes : List Lexeme}
    (h : ∀ lexeme ∈ lexemes, lexeme.inLine = true) : ∀ t ∈ tokensAt p lexemes, t.kind ≠ .newline := by
  intro t ht
  obtain ⟨text, n, hmem⟩ := exists_of_mem_tokensAt ht
  exact bne_iff_ne.1 (Bool.and_eq_true_iff.1 (h _ hmem)).1

theorem FileLayout.forall_mem_lexemes (closed : Bool) :
    ∀ (file : FileLayout), ∀ lexeme ∈ lexemes closed file, lexeme.isPlain = true
  | [],                    lexeme, h => by cases h
  | (line, stop) :: later, lexeme, h => by
    simp only [lexemes, List.mem_append] at h
    rcases h with h | h | h
    · exact Lexeme.isPlain_of_inLine (line.forall_mem_lexemes lexeme h)
    · split at h
      · rw [List.mem_singleton.1 h]
        cases stop <;> rfl
      · cases h
    · exact forall_mem_lexemes closed later lexeme h

/-! ## Terms -/

section

variable {settings : Settings} {stop : Token}

theorem readTerm_lexemes (stop : Token) {t : Term} (ht : t.IsWritable) (p : Position) (later : List Lexeme) :
    ∃ token rest, tokensAt p (t.lexemes ++ later) = token :: rest ∧ token.position = p ∧ beginsTerm token = true ∧
      readTerm stop token rest = .ok (t, tokensAt (placeBehind p t.lexemes) later) := by
  cases ht with
  | @identifier name h =>
    refine ⟨_, _, rfl, rfl, rfl, ?_⟩
    rw [readTerm_of_identifier rfl, String.ofList_toList]
    rfl
  | @named name h =>
    refine ⟨_, _, rfl, rfl, rfl, ?_⟩
    rw [readTerm_of_dollar rfl]
    show Except.ok (Term.named (String.ofList name.toList), _) = _
    rw [String.ofList_toList]
    rfl
  | allPrerequisites => exact ⟨_, _, rfl, rfl, rfl, rfl⟩

theorem readTerms_lexemesOf (stop : Token) : ∀ {items : List Item}, (∀ t ∈ Item.termsOf items, t.IsWritable) →
    ∀ p : Position, readTerms stop (tokensAt p (Item.lexemesOf items)) = .ok (Item.termsOf items)
  | [],              _,      _ => readTerms_nil stop
  | .space :: items, hitems, p => by
    have hlater : ∀ t ∈ Item.termsOf items, t.IsWritable := hitems
    exact (readTerms_space rfl _).trans (readTerms_lexemesOf stop hlater _)
  | .term t :: items, hitems, p => by
    have hlater : ∀ u ∈ Item.termsOf items, u.IsWritable := fun u hu => hitems u (List.mem_cons_of_mem t hu)
    obtain ⟨token, rest, heq, -, hterm, hread⟩ :=
      readTerm_lexemes stop (hitems t List.mem_cons_self) p (Item.lexemesOf items)
    show readTerms stop (tokensAt p (t.lexemes ++ Item.lexemesOf items)) = _
    rw [heq, readTerms_term hterm hread, readTerms_lexemesOf stop hlater]
    rfl

/-! ## Lines on their own -/

theorem readStatements_unread {token : Token} {rest rest' : List Token}
    (h : readStatement settings stop token rest = .ok (.unread rest')) :
    readStatements settings stop (token :: rest) = readStatements settings stop rest' := by
  rw [readStatements_cons, h]
  rfl

theorem readStatements_term {t : Term} (ht : t.IsWritable) (p : Position) (later : List Lexeme) :
    readStatements settings stop (tokensAt p (t.lexemes ++ later)) =
      afterTerm settings stop t p (dropSpaces (tokensAt (placeBehind p t.lexemes) later)) >>=
        proceed settings stop := by
  obtain ⟨token, rest, heq, hplace, hterm, hread⟩ := readTerm_lexemes stop ht p later
  have hstatement : readStatement settings stop token rest =
      (readTerm stop token rest >>= fun p => afterTerm settings stop p.1 token.position (dropSpaces p.2)) := by
    unfold readStatement
    rcases (beginsTerm_iff token).1 hterm with h | h <;> rw [h]
  rw [heq, readStatements_cons, hstatement, hread, ← hplace]
  rfl

theorem dropSpaces_spaces (later : List Lexeme) : ∀ (n : Nat) (p : Position),
    ∃ q, dropSpaces (tokensAt p (Item.lexemesOf (List.replicate n .space) ++ later)) = dropSpaces (tokensAt q later)
  | 0,     p => ⟨p, rfl⟩
  | n + 1, p => by
    obtain ⟨q, hq⟩ := dropSpaces_spaces later n p.nextColumn
    exact ⟨q, (dropSpaces_cons_of_space rfl _).trans hq⟩

theorem readStatements_spaces (settings : Settings) (stop : Token) (later : List Lexeme) : ∀ (n : Nat) (p : Position),
    ∃ q, readStatements settings stop (tokensAt p (Item.lexemesOf (List.replicate n .space) ++ later)) =
      readStatements settings stop (tokensAt q later)
  | 0,     p => ⟨p, rfl⟩
  | n + 1, p => by
    obtain ⟨q, hq⟩ := readStatements_spaces settings stop later n p.nextColumn
    exact ⟨q, (readStatements_unread rfl).trans hq⟩

/-- **A header.** -/
theorem readStatements_header {indent gap : Nat} {target : Term} {items : List Item}
    (h : (LineLayout.header indent target gap items).Fits) (p : Position) :
    readStatements settings stop (tokensAt p (LineLayout.header indent target gap items).lexemes) =
      .ok (.header target (Item.termsOf items)) := by
  have hlexemes : (LineLayout.header indent target gap items).lexemes =
      Item.lexemesOf (List.replicate indent .space) ++ (target.lexemes ++
        (Item.lexemesOf (List.replicate gap .space) ++ .mark .colon ':' :: Item.lexemesOf items)) := by
    simp [LineLayout.lexemes, LineLayout.front, LineLayout.mark, LineLayout.markKind, LineLayout.items,
      Item.lexemesOf, Item.lexemes]
  rw [hlexemes]
  obtain ⟨q, hq⟩ := readStatements_spaces settings stop
    (target.lexemes ++ (Item.lexemesOf (List.replicate gap .space) ++ .mark .colon ':' :: Item.lexemesOf items))
    indent p
  rw [hq, readStatements_term h.target]
  obtain ⟨r, hr⟩ := dropSpaces_spaces (.mark .colon ':' :: Item.lexemesOf items) gap (placeBehind q target.lexemes)
  rw [hr]
  have hcolon (rest : List Token) : afterTerm settings stop target q (⟨.colon, ":", 1, r⟩ :: rest) =
      (readTerms stop rest).map fun terms => .known (.header target terms) := rfl
  show afterTerm settings stop target q
    (dropSpaces (⟨.colon, ":", 1, r⟩ :: tokensAt r.nextColumn (Item.lexemesOf items))) >>= _ = _
  have hitems : ∀ t ∈ Item.termsOf items, t.IsWritable := h.items
  rw [dropSpaces_cons_of_ne Token.Kind.noConfusion, hcolon, readTerms_lexemesOf stop hitems]
  rfl

/-- **A line under no target leaves nothing**, whatever its terms are.  Behind a term, the first token of the next one
is dropped, and what is left of that one leaves nothing either. -/
theorem readStatements_orphan {items : List Item} (hitems : ∀ t ∈ Item.termsOf items, t.IsWritable) (p : Position) :
    readStatements settings stop (tokensAt p (Item.lexemesOf items)) = .ok .nothing ∧
      ∀ t start, afterTerm settings stop t start (dropSpaces (tokensAt p (Item.lexemesOf items))) >>=
        proceed settings stop = .ok .nothing := by
  induction items generalizing p with
  | nil => exact ⟨readStatements_nil settings stop, fun t start => rfl⟩
  | cons item items ih =>
    cases item with
    | space =>
      obtain ⟨hread, hafter⟩ := ih hitems p.nextColumn
      refine ⟨(readStatements_unread rfl).trans hread, fun t start => ?_⟩
      show afterTerm settings stop t start (dropSpaces (_ :: tokensAt p.nextColumn (Item.lexemesOf items))) >>= _ = _
      rw [dropSpaces_cons_of_space rfl]
      exact hafter t start
    | term u =>
      have hu := hitems u List.mem_cons_self
      have hlater : ∀ t ∈ Item.termsOf items, t.IsWritable := fun t ht => hitems t (List.mem_cons_of_mem u ht)
      refine ⟨?_, fun t start => ?_⟩
      · show readStatements settings stop (tokensAt p (u.lexemes ++ Item.lexemesOf items)) = _
        rw [readStatements_term hu]
        exact (ih hlater _).2 u p
      · show afterTerm settings stop t start (dropSpaces (tokensAt p (u.lexemes ++ Item.lexemesOf items))) >>= _ = _
        cases hu with
        | identifier h     => exact (ih hlater _).1
        | allPrerequisites => exact (readStatements_unread rfl).trans (ih hlater _).1
        | @named name h    =>
          -- the `$` is dropped, the `(` ignored, and the name drops the `)`
          show readStatements settings stop (tokensAt p.nextColumn
            (.mark .leftParen '(' :: (Term.lexemes (.identifier name) ++
              .mark .rightParen ')' :: Item.lexemesOf items))) = _
          refine (readStatements_unread rfl).trans ?_
          rw [readStatements_term (.identifier h)]
          exact (ih hlater _).1

end

/-! ## All lines -/

namespace LineLayout

/-- The rules that lines make together, in front of them the recipe lines that belong to a rule before.  `isOpen` says
whether there is one. -/
def gather : (isOpen : Bool) → List LineLayout → List RecipeLine × List Rule
  | _,     []                               => ([], [])
  | _,     header _ target _ items :: later =>
    ([], ⟨target, Item.termsOf items, (gather true later).1, false⟩ :: (gather true later).2)
  | _,     headless _ :: later              => ([], (gather false later).2)
  | false, recipe _ :: later                => ([], (gather false later).2)
  | true,  recipe items :: later            => (Item.termsOf items :: (gather true later).1, (gather true later).2)

theorem gather_header (isOpen : Bool) (indent gap : Nat) (target : Term) (items : List Item) (later : List LineLayout) :
    gather isOpen (header indent target gap items :: later) =
      ([], ⟨target, Item.termsOf items, (gather true later).1, false⟩ :: (gather true later).2) := by
  cases isOpen <;> rfl

theorem gather_recipe (later : List LineLayout) : ∀ recipes : List (List Item),
    gather true (recipes.map recipe ++ later) =
      (recipes.map Item.termsOf ++ (gather true later).1, (gather true later).2)
  | []               => rfl
  | items :: recipes => by
    rw [List.map_cons, List.cons_append, gather, gather_recipe later recipes]
    rfl

end LineLayout

section

variable {settings : Settings} {last : Position}

theorem recipe?_of_ne {token stop : Token} (h : token.kind ≠ .tab) (rest : List Token) :
    Line.recipe? ⟨token :: rest, stop⟩ = none := if_neg h

theorem recipe?_header {indent gap : Nat} {target : Term} {items : List Item}
    (h : (LineLayout.header indent target gap items).Fits) (p : Position) (stop : Token) :
    Line.recipe? ⟨tokensAt p (LineLayout.header indent target gap items).lexemes, stop⟩ = none := by
  have htarget := h.target
  cases indent with
  | succ n => exact recipe?_of_ne Token.Kind.noConfusion _
  | zero   =>
    cases htarget with
    | identifier h     => exact recipe?_of_ne Token.Kind.noConfusion _
    | named h          => exact recipe?_of_ne Token.Kind.noConfusion _
    | allPrerequisites => exact recipe?_of_ne Token.Kind.noConfusion _

theorem readLines_layout {line : LineLayout} (h : line.Fits) (p : Position) (stop : Token) {later : List Line}
    {rest : List LineLayout} (hlater : ∀ b, readLines settings b later = .ok (LineLayout.gather b rest))
    (isOpen : Bool) : readLines settings isOpen (⟨tokensAt p line.lexemes, stop⟩ :: later) =
      .ok (LineLayout.gather isOpen (line :: rest)) := by
  cases line with
  | header indent target gap items =>
    rw [readLines_of_none (recipe?_header h p stop), readLines_false_of_header (readStatements_header h p), hlater]
    cases isOpen <;> rfl
  | headless items =>
    have hread : readStatements settings stop (tokensAt p (LineLayout.headless items).lexemes) = .ok .nothing :=
      (readStatements_unread rfl).trans (readStatements_orphan h.items _).1
    have hrecipe : Line.recipe? ⟨tokensAt p (LineLayout.headless items).lexemes, stop⟩ = none :=
      recipe?_of_ne Token.Kind.noConfusion _
    rw [readLines_of_none hrecipe, readLines_false_of_nothing hread, hlater]
    cases isOpen <;> rfl
  | recipe items =>
    cases isOpen with
    | false =>
      have hread : readStatements settings stop (tokensAt p (LineLayout.recipe items).lexemes) = .ok .nothing :=
        (readStatements_unread rfl).trans (readStatements_orphan h.items _).1
      rw [readLines_false_of_nothing hread, hlater]
      rfl
    | true =>
      have hread : readTerms stop (tokensAt p.nextColumn (Item.lexemesOf items)) = .ok (Item.termsOf items) :=
        readTerms_lexemesOf stop h.items _
      rw [readLines_true_of_recipe rfl, hlater]
      show readTerms stop (tokensAt p.nextColumn (Item.lexemesOf items)) >>= _ = _
      rw [hread]
      rfl

/-- **A file that is laid out is read as the rules that its lines make together.** -/
theorem readLines_lexemes (closed : Bool) {file : FileLayout} (h : ∀ l ∈ file, l.1.Fits) (p : Position)
    (isOpen : Bool) : readLines settings isOpen (lines last (tokensAt p (FileLayout.lexemes closed file))) =
      .ok (LineLayout.gather isOpen (file.map Prod.fst)) := by
  induction file generalizing p isOpen with
  | nil =>
    -- behind the last line break there is one more line, an empty one
    have hread : readStatements settings (.endOfInput last) [] = .ok .nothing := readStatements_nil _ _
    show readLines settings isOpen (lines last []) = .ok ([], [])
    rw [lines_of_forall (fun t ht => by cases ht), readLines_of_none rfl, readLines_false_of_nothing hread,
      readLines_nil]
    rfl
  | cons l later ih =>
    obtain ⟨line, stop⟩ := l
    have hline : line.Fits := h _ List.mem_cons_self
    have hlater := ih fun l hl => h l (List.mem_cons_of_mem _ hl)
    have hinner : ∀ t ∈ tokensAt p line.lexemes, t.kind ≠ .newline := kind_ne_newline_of_inLine line.forall_mem_lexemes
    rw [FileLayout.lexemes, tokensAt_append]
    by_cases hstop : (closed || !later.isEmpty) = true
    · obtain ⟨token, q, hnewline, heq⟩ : ∃ token q, token.kind = .newline ∧
          tokensAt (placeBehind p line.lexemes) (stop.lexeme :: FileLayout.lexemes closed later) =
            token :: tokensAt q (FileLayout.lexemes closed later) := by
        cases stop <;> exact ⟨_, _, rfl, rfl⟩
      simp only [hstop, if_true, List.singleton_append]
      rw [heq, lines_append hinner hnewline]
      exact readLines_layout hline p token (fun b => hlater q b) isOpen
    · obtain ⟨-, rfl⟩ : closed = false ∧ later = [] := by simpa using hstop
      simp only [hstop]
      show readLines settings isOpen (lines last (tokensAt p line.lexemes ++ [])) = _
      rw [List.append_nil, lines_of_forall hinner]
      exact readLines_layout hline p _ readLines_nil isOpen

theorem withoutMark_source (closed : Bool) {file : FileLayout} (h : ∀ l ∈ file, l.1.Fits) :
    withoutMark (FileLayout.source closed file) = FileLayout.source closed file :=
  withoutMark_of_head? fun hmark => by cases FileLayout.forall_head?_source closed h _ hmark

/-- **The text of a layout.**  Whatever the settings are, it is read as the rules that its lines make together. -/
theorem result_parseText_source (closed : Bool) {file : FileLayout} (h : ∀ l ∈ file, l.1.Fits) (settings : Settings) :
    (parseText settings (String.ofList (FileLayout.source closed file))).result =
      .ok (Program.empty.addRules (LineLayout.gather false (file.map Prod.fst)).2) := by
  have hspells : Spells (withoutMark (String.ofList (FileLayout.source closed file)).toList)
      (FileLayout.lexemes closed file) := by
    rw [String.toList_ofList, withoutMark_source closed h]
    exact FileLayout.spells_source closed h
  have htokens : ∀ lexeme ∈ FileLayout.lexemes closed file, lexeme.isToken = true := fun lexeme hmem =>
    Lexeme.isToken_of_isPlain (FileLayout.forall_mem_lexemes closed file lexeme hmem)
  rw [result_parseText_of_spells hspells htokens, rulesOf, readLines_lexemes closed h]
  rfl

end
end RuleFile
