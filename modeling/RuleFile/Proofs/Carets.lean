import RuleFile.Proofs.RoundTrip
import RuleFile.Proofs.Streaming
/-!
# Printing references that stand for nothing yet

A reference `$<` that no expansion has filled is printed as its name, `$^`, and a caret is no token.  A text with carets
is that of a layout in which they are written as `<` (`FileLayout.repaired`).  That layout can be read, so nothing in
front of the first caret is wrong, and the caret is the error (`Program.result_parseText_caret`).
-/
namespace RuleFile

open Grammar

/-! ## Carets -/

/-- Puts a caret in the place of `<`. -/
def caretFor (c : Char) : Char := if c = '<' then '^' else c

theorem caretFor_of_ne {c : Char} (h : c ≠ '<') : caretFor c = c := if_neg h

theorem map_caretFor {cs : List Char} (h : '<' ∉ cs) : cs.map caretFor = cs := by
  refine (List.map_congr_left fun c hc => caretFor_of_ne ?_).trans (List.map_id' cs)
  rintro rfl
  exact h hc

theorem map_caretFor_of_isName {cs : List Char} (h : isName cs = true) : cs.map caretFor = cs := by
  apply map_caretFor
  intro hmem
  have hless := forall_mem_of_isName h '<' hmem
  revert hless
  decide

theorem isNameCharacter_caretFor (c : Char) : isNameCharacter (caretFor c) = isNameCharacter c := by
  by_cases h : c = '<'
  · subst h
    decide +kernel
  · rw [caretFor_of_ne h]

theorem isDigit_caretFor (c : Char) : (caretFor c).isDigit = c.isDigit := by
  by_cases h : c = '<'
  · subst h
    rfl
  · rw [caretFor_of_ne h]

theorem caretFor_eq_iff {c d : Char} (hcaret : d ≠ '^') (hless : d ≠ '<') : caretFor c = d ↔ c = d := by
  by_cases h : c = '<'
  · subst h
    exact ⟨fun h => absurd h.symm hcaret, fun h => absurd h.symm hless⟩
  · rw [caretFor_of_ne h]

/-- What a lexeme becomes if each `<` in its text is a caret. -/
def Lexeme.spoilt : Lexeme → Lexeme
  | token kind text n => if kind = .lessThan then failure (.unexpectedCharacter '^') else token kind text n
  | failure cause     => failure cause

theorem kind_ne_lessThan {c : Char} {kind : Token.Kind} (h : Token.Kind.ofPunctuation? c = some kind) (hc : c ≠ '<') :
    kind ≠ .lessThan := by
  rintro rfl
  unfold Token.Kind.ofPunctuation? at h
  split at h <;> first | exact hc rfl | cases h

theorem Piece.spoilt {piece rest : List Char} {lexeme : Lexeme} (h : Piece piece rest lexeme)
    (hplain : lexeme.isPlain = true) : Piece (piece.map caretFor) (rest.map caretFor) lexeme.spoilt := by
  -- what ends a name, a number or a line break ends it with a caret in its place, too
  have hhead {P : Char → Bool} (hP : ∀ c, P (caretFor c) = P c) (hrest : ∀ d ∈ rest.head?, P d = false) :
      ∀ d ∈ (rest.map caretFor).head?, P d = false := by
    intro d hd
    rw [List.head?_map] at hd
    obtain ⟨c, hc, rfl⟩ := Option.map_eq_some_iff.1 hd
    rw [hP]
    exact hrest c hc
  cases h with
  | lineFeed               => exact .lineFeed _
  | carriageReturnLineFeed => exact .carriageReturnLineFeed _
  | carriageReturn _ hrest =>
    refine .carriageReturn _ fun hfeed => hrest ?_
    rw [List.head?_map] at hfeed
    obtain ⟨c, hc, heq⟩ := Option.map_eq_some_iff.1 hfeed
    rw [hc, (caretFor_eq_iff (by decide) (by decide)).1 heq]
  | punctuation c kind _ hc hkind =>
    by_cases h : c = '<'
    · subst h
      cases hc
      exact .unexpectedCharacter '^' _ (by decide +kernel)
    · rw [List.map_singleton, caretFor_of_ne h, Lexeme.spoilt, if_neg (kind_ne_lessThan hc h)]
      exact .punctuation c kind _ hc hkind
  | identifier _ _ hname hrest =>
    rw [map_caretFor_of_isName hname]
    exact .identifier _ _ hname (hhead isNameCharacter_caretFor hrest)
  | number _ _ hne hdigits hrest =>
    have hless : '<' ∉ piece := fun hmem => by cases hdigits '<' hmem
    rw [map_caretFor hless]
    exact .number _ _ hne hdigits (hhead isDigit_caretFor hrest)
  | closedLiteral quote       => unfold literalKind at hplain; split at hplain <;> cases hplain
  | cutLiteral quote          => unfold literalKind at hplain; split at hplain <;> cases hplain
  | unterminatedLiteral quote => cases hplain
  | unexpectedCharacter c     => cases hplain

/-- **A text without literals keeps its pieces** if each `<` becomes a caret; only these are no tokens any more. -/
theorem Spells.spoilt {cs : List Char} {lexemes : List Lexeme} (h : Spells cs lexemes)
    (hplain : ∀ l ∈ lexemes, l.isPlain = true) : Spells (cs.map caretFor) (lexemes.map Lexeme.spoilt) := by
  obtain ⟨pieces, hsplit, rfl⟩ := h
  induction hsplit with
  | nil => exact .nil
  | cons hpiece hrest ih =>
    rw [List.map_append]
    exact .cons (hpiece.spoilt (hplain _ List.mem_cons_self)) (ih fun l hl => hplain l (List.mem_cons_of_mem _ hl))

/-- Where lexemes can be read, nothing but the first caret is wrong with them. -/
theorem outcome_spoilt {settings : Settings} : ∀ {lexemes : List Lexeme} {p : Position} {state : State},
    (Account.ofLexemes settings p lexemes state).outcome = .ok () → .mark .lessThan '<' ∈ lexemes →
    ∃ q, (Account.ofLexemes settings p (lexemes.map Lexeme.spoilt) state).outcome =
      .error (.lex ⟨.unexpectedCharacter '^', q⟩)
  | .failure _ :: _,               _, _,     hok, _    => by cases hok
  | .token kind text n :: lexemes, p, state, hok, hmem => by
    by_cases hk : kind = .lessThan
    · subst hk
      exact ⟨p, rfl⟩
    · have hlater : .mark .lessThan '<' ∈ lexemes := by
        refine (List.mem_cons.1 hmem).resolve_left fun h => hk ?_
        exact (Lexeme.token.inj h).1.symm
      rw [List.map_cons, Lexeme.spoilt, if_neg hk]
      rw [Account.ofLexemes] at hok ⊢
      cases hmove : (state.advance settings ⟨kind, String.ofList text, n, p⟩).result with
      | error e => rw [Account.behind_of_error hmove] at hok; cases hok
      | ok s    =>
        rw [Account.behind_of_ok hmove] at hok ⊢
        exact outcome_spoilt hok hlater

/-! ## Layouts with carets -/

namespace Term

/-- The identifiers that are printed: names, and `$^`. -/
inductive IsPrinted : Term → Prop where
  | name {name : String} (h : isName name.toList = true) : IsPrinted (identifier name)
  | caret : IsPrinted (identifier allPrerequisitesName)

/-- Puts a reference in the place of an identifier that is printed like one. -/
def repaired : Term → Term
  | identifier name => if name = allPrerequisitesName then allPrerequisites else identifier name
  | t               => t

theorem repaired_of_isName {name : String} (h : isName name.toList = true) :
    (identifier name).repaired = identifier name := by
  refine if_neg ?_
  rintro rfl
  revert h
  decide

theorem IsPrinted.isName {name : String} (h : (identifier name).IsPrinted) (hne : name ≠ allPrerequisitesName) :
    isName name.toList = true := by
  cases h with
  | name h => exact h
  | caret  => exact absurd rfl hne

theorem IsPrinted.isWritable_repaired {t : Term} (h : t.IsPrinted) : t.repaired.IsWritable := by
  cases h with
  | name h =>
    rw [repaired_of_isName h]
    exact .identifier h
  | caret  => exact .allPrerequisites

theorem IsPrinted.map_source_repaired {t : Term} (h : t.IsPrinted) : t.repaired.source.map caretFor = t.source := by
  cases h with
  | name h =>
    rw [repaired_of_isName h]
    exact map_caretFor_of_isName h
  | caret  => rfl

theorem isIdentifier_of_repaired {t : Term} (h : t.repaired.isIdentifier = true) : t.isIdentifier = true := by
  cases t <;> first | rfl | exact h

end Term

namespace Item

def repaired : Item → Item
  | space  => space
  | term t => term t.repaired

theorem isIdentifier_of_repaired {item : Item} (h : item.repaired.isIdentifier = true) : item.isIdentifier = true := by
  cases item with
  | space  => exact h
  | term t => exact Term.isIdentifier_of_repaired h

theorem termsOf_repaired (items : List Item) : termsOf (items.map repaired) = (termsOf items).map Term.repaired := by
  rw [termsOf, termsOf, List.filterMap_map, List.map_filterMap]
  exact List.filterMap_congr fun item _ => by cases item <;> rfl

theorem spaced_repaired {items : List Item} (h : Spaced items) : Spaced (items.map repaired) := by
  exact (List.isChain_map _).2 (h.imp fun a b hab hid =>
    hab ⟨isIdentifier_of_repaired hid.1, isIdentifier_of_repaired hid.2⟩)

theorem map_sourceOf_repaired {items : List Item} (h : ∀ t ∈ termsOf items, t.IsPrinted) :
    (sourceOf (items.map repaired)).map caretFor = sourceOf items := by
  rw [sourceOf, sourceOf, List.flatMap_map, List.map_flatMap]
  refine List.flatMap_congr fun item hitem => ?_
  cases item with
  | space  => rfl
  | term t => exact (h t (List.mem_filterMap.2 ⟨_, hitem, rfl⟩)).map_source_repaired

end Item

namespace LineLayout

def repaired : LineLayout → LineLayout
  | header indent target gap items => header indent target.repaired gap (items.map Item.repaired)
  | headless items                 => headless (items.map Item.repaired)
  | recipe items                   => recipe (items.map Item.repaired)

/-- A line of which only the carets cannot be read. -/
abbrev IsPrinted (line : LineLayout) : Prop := line.MadeOf Term.IsPrinted

theorem front_repaired (line : LineLayout) : line.repaired.front = line.front.map Item.repaired := by
  cases line with
  | header indent target gap items => simp [repaired, front, Item.repaired]
  | headless items                 => rfl
  | recipe items                   => rfl

theorem items_repaired (line : LineLayout) : line.repaired.items = line.items.map Item.repaired := by
  cases line <;> rfl

theorem IsPrinted.fits_repaired {line : LineLayout} (h : line.IsPrinted) : line.repaired.Fits := by
  have hwritable {items : List Item} (hitems : ∀ t ∈ Item.termsOf items, t.IsPrinted) :
      ∀ t ∈ Item.termsOf (items.map Item.repaired), t.IsWritable := by
    intro t ht
    rw [Item.termsOf_repaired] at ht
    obtain ⟨u, hu, rfl⟩ := List.mem_map.1 ht
    exact (hitems u hu).isWritable_repaired
  refine ⟨?_, ?_, ?_⟩
  · rw [front_repaired]
    exact hwritable h.front
  · rw [items_repaired]
    exact hwritable h.items
  · rw [items_repaired]
    exact Item.spaced_repaired h.spaced

theorem IsPrinted.map_source_repaired {line : LineLayout} (h : line.IsPrinted) :
    line.repaired.source.map caretFor = line.source := by
  have hmark : caretFor line.repaired.mark = line.mark := by cases line <;> rfl
  rw [source, source, List.map_append, List.map_cons, hmark, front_repaired, items_repaired,
    Item.map_sourceOf_repaired h.front, Item.map_sourceOf_repaired h.items]

theorem mem_lexemes_repaired {line : LineLayout}
    (h : .identifier Term.allPrerequisitesName ∈ Item.termsOf line.front ∨
      .identifier Term.allPrerequisitesName ∈ Item.termsOf line.items) :
    .mark .lessThan '<' ∈ line.repaired.lexemes := by
  have hitems {items : List Item} (hmem : .identifier Term.allPrerequisitesName ∈ Item.termsOf items) :
      .mark .lessThan '<' ∈ Item.lexemesOf (items.map Item.repaired) := by
    obtain ⟨item, hitem, heq⟩ := List.mem_filterMap.1 hmem
    cases item with
    | space  => cases heq
    | term t =>
      cases heq
      refine List.mem_flatMap.2 ⟨_, List.mem_map_of_mem hitem, ?_⟩
      exact List.mem_cons_of_mem _ List.mem_cons_self
  rw [lexemes, front_repaired, items_repaired]
  rcases h with h | h
  · exact List.mem_append_left _ (hitems h)
  · exact List.mem_append_right _ (List.mem_cons_of_mem _ (hitems h))

end LineLayout

namespace FileLayout

def repaired (file : FileLayout) : FileLayout := file.map fun l => (l.1.repaired, l.2)

theorem map_source_repaired {file : FileLayout} (h : ∀ l ∈ file, l.1.IsPrinted) :
    (source true file.repaired).map caretFor = source true file := by
  rw [source_true, source_true, repaired, List.flatMap_map, List.map_flatMap]
  refine List.flatMap_congr fun l hl => ?_
  have hbreak : l.2.source.map caretFor = l.2.source := by
    obtain ⟨line, stop⟩ := l
    cases stop <;> rfl
  rw [List.map_append, (h l hl).map_source_repaired, hbreak]

theorem fits_repaired {file : FileLayout} (h : ∀ l ∈ file, l.1.IsPrinted) : ∀ l ∈ file.repaired, l.1.Fits := by
  intro l hl
  obtain ⟨l', hl', rfl⟩ := List.mem_map.1 hl
  exact (h l' hl').fits_repaired

theorem mem_lexemes (closed : Bool) {lexeme : Lexeme} : ∀ {file : FileLayout}, ∀ l ∈ file, lexeme ∈ l.1.lexemes →
    lexeme ∈ lexemes closed file
  | (line, stop) :: later, l, hl, h => by
    rcases List.mem_cons.1 hl with rfl | hl
    · exact List.mem_append_left _ h
    · exact List.mem_append_right _ (List.mem_append_right _ (mem_lexemes closed l hl h))

/-- **A layout with carets is read up to the first of them.** -/
theorem result_parseText_caret {file : FileLayout} (h : ∀ l ∈ file, l.1.IsPrinted)
    (hcaret : .mark .lessThan '<' ∈ lexemes true file.repaired) (settings : Settings) :
    ∃ p, (parseText settings (String.ofList (source true file))).result =
      .error (.lex ⟨.unexpectedCharacter '^', p⟩) := by
  have hfits := fits_repaired h
  have hspells := spells_source true hfits
  have hhead : (source true file).head? ≠ some '\ufeff' := by
    intro hmark
    rw [← map_source_repaired h, List.head?_map] at hmark
    obtain ⟨c, hc, heq⟩ := Option.map_eq_some_iff.1 hmark
    have hline := forall_head?_source true hfits c hc
    rw [(caretFor_eq_iff (by decide) (by decide)).1 heq] at hline
    cases hline
  have hrepaired : Spells (withoutMark (String.ofList (source true file.repaired)).toList)
      (lexemes true file.repaired) := by
    rwa [String.toList_ofList, withoutMark_source true hfits]
  have hprinted : Spells (withoutMark (String.ofList (source true file)).toList)
      ((lexemes true file.repaired).map Lexeme.spoilt) := by
    rw [String.toList_ofList, withoutMark_of_head? hhead, ← map_source_repaired h]
    exact hspells.spoilt (forall_mem_lexemes true file.repaired)
  -- the repaired text is read to its end, and so is the printed one up to its first caret
  have hread := result_parseText_source true hfits settings
  rw [result_parseText_of_lexemes settings hrepaired] at hread
  rw [result_parseText_of_lexemes settings hprinted]
  obtain ⟨p, hp⟩ := outcome_spoilt (Account.result_eq_ok.1 hread).1 hcaret
  exact ⟨p, Account.result_eq_error.2 hp⟩

end FileLayout

/-! ## Programs with carets -/

/-- A text that is printed: words, or `$^`. -/
def isPrinted (value : String) : Bool := isWords value || value == Term.allPrerequisitesName

theorem isPrinted_of_mem_wordsOf {value : String} (h : isPrinted value = true) : ∀ t ∈ wordsOf value, t.IsPrinted := by
  intro t ht
  rcases Bool.or_eq_true_iff.1 h with h | h
  · obtain ⟨hname⟩ := isWord_of_mem_wordsOf h t ht
    exact .name hname
  · rw [beq_iff_eq.1 h] at ht
    have hcaret : wordsOf Term.allPrerequisitesName = [.identifier Term.allPrerequisitesName] := by decide
    rw [hcaret] at ht
    rw [List.mem_singleton.1 ht]
    exact .caret

namespace Rule

/-- A rule whose texts are words or `$^`. -/
structure IsPrinted (rule : Rule) : Prop where
  target        : rule.target.value = "" ∨ (Term.identifier rule.target.value).IsPrinted
  prerequisites : ∀ t ∈ rule.prerequisites, isPrinted t.value = true
  recipe        : ∀ line ∈ rule.recipe, ∀ t ∈ line, isPrinted t.value = true

/-- One of the texts of a rule is `$^`. -/
def PrintsCaret (rule : Rule) : Prop :=
  rule.target.value = Term.allPrerequisitesName ∨
    (∃ t ∈ rule.prerequisites, t.value = Term.allPrerequisitesName) ∨
      ∃ line ∈ rule.recipe, ∃ t ∈ line, t.value = Term.allPrerequisitesName

theorem IsPrinted.isPrinted_printedLines {rule : Rule} (h : rule.IsPrinted) :
    ∀ line ∈ rule.printedLines, line.IsPrinted := by
  have hwords {terms : List Term} (hterms : ∀ t ∈ terms, isPrinted t.value = true) :
      ∀ t ∈ wordsOfTerms terms, t.IsPrinted := by
    intro t ht
    obtain ⟨u, hu, ht⟩ := List.mem_flatMap.1 ht
    exact isPrinted_of_mem_wordsOf (hterms u hu) t ht
  exact forall_mem_printedLines (fun hne => h.target.resolve_left hne) (hwords h.prerequisites)
    fun terms hterms => hwords (h.recipe terms hterms)

theorem IsPrinted.printsWords {rule : Rule} (h : rule.IsPrinted) (hcaret : ¬ rule.PrintsCaret) : rule.PrintsWords := by
  have hwords {value : String} (hvalue : isPrinted value = true) (hne : value ≠ Term.allPrerequisitesName) :
      isWords value = true := by
    rcases Bool.or_eq_true_iff.1 hvalue with hvalue | hvalue
    · exact hvalue
    · exact absurd (beq_iff_eq.1 hvalue) hne
  rw [PrintsCaret, not_or, not_or] at hcaret
  obtain ⟨htarget, hprerequisites, hrecipe⟩ := hcaret
  refine ⟨h.target.imp_right fun hprinted => hprinted.isName htarget, fun t ht => ?_, fun line hline t ht => ?_⟩
  · exact hwords (h.prerequisites t ht) fun heq => hprerequisites ⟨t, ht, heq⟩
  · exact hwords (h.recipe line hline t ht) fun heq => hrecipe ⟨line, hline, t, ht, heq⟩

/-- A rule with `$^` among its texts has a line with a caret. -/
theorem PrintsCaret.exists_line {rule : Rule} (h : rule.PrintsCaret) : ∃ line ∈ rule.printedLines,
    .identifier Term.allPrerequisitesName ∈ Item.termsOf line.front ∨
      .identifier Term.allPrerequisitesName ∈ Item.termsOf line.items := by
  have hwords {terms : List Term} {t : Term} (ht : t ∈ terms) (hvalue : t.value = Term.allPrerequisitesName) :
      .identifier Term.allPrerequisitesName ∈ wordsOfTerms terms := by
    refine List.mem_flatMap.2 ⟨t, ht, ?_⟩
    rw [hvalue]
    decide
  rcases h with htarget | ⟨t, ht, hvalue⟩ | ⟨line, hline, t, ht, hvalue⟩
  · have hne : rule.target.value ≠ "" := by
      rw [htarget]
      decide
    refine ⟨rule.headerLine, List.mem_cons_self, .inl ?_⟩
    rw [headerLine, if_neg hne, htarget]
    exact LineLayout.mem_termsOf_front.2 rfl
  · have hitems : rule.headerLine.items = rule.headerItems := by
      unfold headerLine
      split <;> rfl
    refine ⟨rule.headerLine, List.mem_cons_self, .inr ?_⟩
    rw [hitems, termsOf_headerItems]
    exact hwords ht hvalue
  · have hmem : .recipe (Item.joined (Item.ofValues line)) ∈ rule.printedLines :=
      List.mem_cons_of_mem _ (List.mem_map_of_mem (List.mem_map_of_mem hline))
    refine ⟨_, hmem, .inr ?_⟩
    show _ ∈ Item.termsOf (Item.joined (Item.ofValues line))
    rw [Item.termsOf_joined_ofValues]
    exact hwords ht hvalue

end Rule

/-- **A program with a reference that stands for nothing yet is printed as what cannot be read**: the first caret is the
error. -/
theorem Program.result_parseText_caret {p : Program} (h : ∀ r ∈ p.rules, r.IsPrinted)
    (hcaret : ∃ r ∈ p.rules, r.PrintsCaret) (settings : Settings) :
    ∃ q, (parseText settings p.format).result = .error (.lex ⟨.unexpectedCharacter '^', q⟩) := by
  have hprinted : ∀ l ∈ p.rules.flatMap Rule.printedFile, l.1.IsPrinted := by
    intro l hl
    obtain ⟨r, hr, hl⟩ := List.mem_flatMap.1 hl
    obtain ⟨line, hline, rfl⟩ := List.mem_map.1 hl
    exact (h r hr).isPrinted_printedLines line hline
  obtain ⟨r, hr, hcaret⟩ := hcaret
  obtain ⟨line, hline, hmem⟩ := hcaret.exists_line
  have hline : (line, .lineFeed) ∈ p.rules.flatMap Rule.printedFile :=
    List.mem_flatMap.2 ⟨r, hr, List.mem_map_of_mem hline⟩
  have hmark : .mark .lessThan '<' ∈ FileLayout.lexemes true (FileLayout.repaired (p.rules.flatMap Rule.printedFile)) :=
    FileLayout.mem_lexemes true _ (List.mem_map_of_mem hline) (LineLayout.mem_lexemes_repaired hmem)
  have hread := FileLayout.result_parseText_caret hprinted hmark settings
  rwa [← toList_format, String.ofList_toList] at hread

end RuleFile
