import Mathlib.Data.List.Chain
import RuleFile.Proofs.Pieces
import RuleFile.Rule
/-!
# Layouts

The same rules can be written in many ways: with more spaces or fewer, with any of three line breaks, with or without
the last of them.  A layout is one such way, as data: a line is a list of items, terms and single spaces, and a file is
a list of lines, each with its line break.  `source` is the text of a layout, and `lexemes` are what the pieces of that
text are (`FileLayout.spells_source`).

Between the items of a line there is one rule, that no two identifiers stand side by side (`Spaced`), since they would
make one.
-/
namespace RuleFile

/-! ## Names and marks -/

def Lexeme.name (name : String) : Lexeme := .token .identifier name.toList (utf8Length name.toList)

def Lexeme.mark (kind : Token.Kind) (c : Char) : Lexeme := .token kind [c] 1

theorem Spells.name {name : String} {rest : List Char} {lexemes : List Lexeme} (hname : isName name.toList = true)
    (hstop : ∀ d ∈ rest.head?, isNameCharacter d = false) (hrest : Spells rest lexemes) :
    Spells (name.toList ++ rest) (.name name :: lexemes) :=
  .cons (.identifier _ _ hname hstop) hrest

theorem Spells.mark {kind : Token.Kind} {c : Char} {rest : List Char} {lexemes : List Lexeme}
    (hc : Token.Kind.ofPunctuation? c = some kind) (hkind : kind ≠ .newline) (hrest : Spells rest lexemes) :
    Spells (c :: rest) (.mark kind c :: lexemes) := by
  have hsize : c.utf8Size = 1 := by
    unfold Token.Kind.ofPunctuation? at hc
    split at hc <;> first | rfl | cases hc
  have hpiece := Piece.punctuation c kind rest hc hkind
  rw [hsize] at hpiece
  exact .cons hpiece hrest

def isLineCharacter (c : Char) : Bool := !isLineBreak c && c != '\ufeff'

theorem isAlphabetic_mark : Text.isAlphabetic '\ufeff' = false := by decide +kernel

theorem isLineCharacter_of_isNameCharacter {d : Char} (h : isNameCharacter d = true) : isLineCharacter d = true := by
  simp only [isNameCharacter, Bool.or_eq_true, beq_iff_eq] at h
  rcases h with h | rfl
  · have hmark : d ≠ '\ufeff' := by
      rintro rfl
      rw [isAlphabetic_mark] at h
      cases h
    simp [isLineCharacter, isLineBreak, ne_of_isAlphabetic h, hmark]
  · rfl

/-! ## Terms

The grammar makes terms of three shapes, `name`, `$(name)` and `$<`, from names such that `P`, whatever these are; a
term can be written if they are names of the lexer. -/

namespace Term

inductive IsRead (P : String → Prop) : Term → Prop where
  | identifier {name : String} (h : P name) : IsRead P (identifier name)
  | named {name : String} (h : P name) : IsRead P (named name)
  | allPrerequisites : IsRead P allPrerequisites

abbrev IsWritable (t : Term) : Prop := t.IsRead fun name => isName name.toList = true

def isIdentifier : Term → Bool
  | identifier _ => true
  | _            => false

/-- A term as it is written.  Of the references only `$<` stands for something. -/
def source : Term → List Char
  | identifier name      => name.toList
  | reference name value => if value = "" then '$' :: '(' :: (name.toList ++ [')']) else ['$', '<']
  | command _            => []

def lexemes : Term → List Lexeme
  | identifier name      => [.name name]
  | reference name value =>
    if value = "" then [.mark .dollar '$', .mark .leftParen '(', .name name, .mark .rightParen ')']
    else [.mark .dollar '$', .mark .lessThan '<']
  | command _            => []

theorem source_named (name : String) : (named name).source = '$' :: '(' :: (name.toList ++ [')']) := rfl

theorem source_allPrerequisites : allPrerequisites.source = ['$', '<'] := rfl

theorem lexemes_named (name : String) : (named name).lexemes =
    [.mark .dollar '$', .mark .leftParen '(', .name name, .mark .rightParen ')'] := rfl

theorem spells_source {t : Term} (ht : t.IsWritable) {rest : List Char} {later : List Lexeme}
    (hstop : t.isIdentifier = true → ∀ d ∈ rest.head?, isNameCharacter d = false) (hrest : Spells rest later) :
    Spells (t.source ++ rest) (t.lexemes ++ later) := by
  cases ht with
  | identifier h => exact .name h (hstop rfl) hrest
  | @named name h =>
    have hclose : Spells (')' :: rest) (.mark .rightParen ')' :: later) := .mark rfl (by decide) hrest
    have hparen : isNameCharacter ')' = false := by decide
    have hname := Spells.name h (by simpa using hparen) hclose
    have hopen := Spells.mark (c := '(') rfl (by decide) hname
    have hdollar := Spells.mark (c := '$') rfl (by decide) hopen
    simpa [source_named, lexemes_named] using hdollar
  | allPrerequisites =>
    have hless := Spells.mark (c := '<') rfl (by decide) hrest
    exact .mark rfl (by decide) hless

theorem forall_mem_source {t : Term} (ht : t.IsWritable) : ∀ d ∈ t.source, isLineCharacter d = true := by
  cases ht with
  | identifier h => exact fun d hd => isLineCharacter_of_isNameCharacter (forall_mem_of_isName h d hd)
  | @named name h =>
    intro d hd
    simp only [source_named, List.mem_cons, List.mem_append, List.not_mem_nil, or_false] at hd
    rcases hd with rfl | rfl | hd | rfl
    · rfl
    · rfl
    · exact isLineCharacter_of_isNameCharacter (forall_mem_of_isName h d hd)
    · rfl
  | allPrerequisites =>
    intro d hd
    rw [source_allPrerequisites] at hd
    rcases List.mem_cons.1 hd with rfl | hd
    · rfl
    · rw [List.mem_singleton.1 hd]
      rfl

end Term

/-! ## Rules -/

/-- All terms of a rule are such that `Q`.  The grammar never makes a rule `expanded`. -/
structure Rule.MadeOf (Q : Term → Prop) (rule : Rule) : Prop where
  target        : Q rule.target
  prerequisites : ∀ t ∈ rule.prerequisites, Q t
  recipe        : ∀ line ∈ rule.recipe, ∀ t ∈ line, Q t
  expanded      : rule.expanded = false

theorem Rule.MadeOf.imp {Q Q' : Term → Prop} (himp : ∀ t, Q t → Q' t) {rule : Rule} (h : rule.MadeOf Q) :
    rule.MadeOf Q' :=
  ⟨himp _ h.target, fun t ht => himp t (h.prerequisites t ht),
    fun line hline t ht => himp t (h.recipe line hline t ht), h.expanded⟩

abbrev Rule.IsWritable (rule : Rule) : Prop := rule.MadeOf Term.IsWritable

/-! ## Items -/

inductive Item where
  | space
  | term (term : Term)
  deriving DecidableEq, Repr

namespace Item

def term? : Item → Option Term
  | space  => none
  | term t => some t

def isIdentifier : Item → Bool
  | space  => false
  | term t => t.isIdentifier

def source : Item → List Char
  | space  => [' ']
  | term t => t.source

def lexemes : Item → List Lexeme
  | space  => [.mark .space ' ']
  | term t => t.lexemes

def termsOf (items : List Item) : List Term := items.filterMap term?

def sourceOf (items : List Item) : List Char := items.flatMap source

def lexemesOf (items : List Item) : List Lexeme := items.flatMap lexemes

/-- No two identifiers stand side by side. -/
def Spaced (items : List Item) : Prop := items.IsChain fun a b => ¬ (a.isIdentifier = true ∧ b.isIdentifier = true)

instance (items : List Item) : Decidable (Spaced items) := inferInstanceAs (Decidable (List.IsChain _ items))

theorem spaced_spaces_append {items : List Item} (h : Spaced items) :
    ∀ n : Nat, Spaced (List.replicate n .space ++ items)
  | 0     => h
  | n + 1 => by
    refine List.isChain_cons.2 ⟨?_, spaced_spaces_append h n⟩
    rintro item - ⟨hid, -⟩
    cases hid

theorem forall_head?_sourceOf {items : List Item} {rest : List Char} (hitems : ∀ t ∈ termsOf items, t.IsWritable)
    (hfirst : ∀ i ∈ items.head?, i.isIdentifier = false) (hstop : ∀ d ∈ rest.head?, isNameCharacter d = false) :
    ∀ d ∈ (sourceOf items ++ rest).head?, isNameCharacter d = false := by
  have hspace : isNameCharacter ' ' = false := by decide
  have hdollar : isNameCharacter '$' = false := by decide
  cases items with
  | nil => exact hstop
  | cons item items =>
    cases item with
    | space  => simpa [sourceOf, source] using hspace
    | term t =>
      have hid : t.isIdentifier = false := hfirst (.term t) rfl
      cases hitems t List.mem_cons_self with
      | identifier h     => cases hid
      | named h          => simpa [sourceOf, source, Term.source_named] using hdollar
      | allPrerequisites => simpa [sourceOf, source, Term.source_allPrerequisites] using hdollar

theorem spells_sourceOf {rest : List Char} {later : List Lexeme}
    (hstop : ∀ d ∈ rest.head?, isNameCharacter d = false) (hrest : Spells rest later) :
    ∀ {items : List Item}, (∀ t ∈ termsOf items, t.IsWritable) → Spaced items →
      Spells (sourceOf items ++ rest) (lexemesOf items ++ later)
  | [],              _,      _       => hrest
  | .space :: items, hitems, hspaced => by
    have ih : Spells (sourceOf items ++ rest) (lexemesOf items ++ later) :=
      spells_sourceOf hstop hrest hitems (List.isChain_cons.1 hspaced).2
    exact .mark rfl (by decide) ih
  | .term t :: items, hitems, hspaced => by
    have hlater : ∀ t ∈ termsOf items, t.IsWritable := fun u hu => hitems u (List.mem_cons_of_mem t hu)
    obtain ⟨hfirst, htail⟩ := List.isChain_cons.1 hspaced
    have ih := spells_sourceOf hstop hrest hlater htail
    have hglue (hid : t.isIdentifier = true) : ∀ i ∈ items.head?, i.isIdentifier = false := by
      intro i hi
      exact Bool.eq_false_iff.2 fun h => hfirst i hi ⟨hid, h⟩
    have hsource := Term.spells_source (hitems t List.mem_cons_self)
      (fun hid => forall_head?_sourceOf hlater (hglue hid) hstop) ih
    simpa [sourceOf, lexemesOf, source, lexemes] using hsource

theorem forall_mem_sourceOf {items : List Item} (hitems : ∀ t ∈ termsOf items, t.IsWritable) :
    ∀ d ∈ sourceOf items, isLineCharacter d = true := by
  intro d hd
  obtain ⟨item, hitem, hd⟩ := List.mem_flatMap.1 hd
  cases item with
  | space  => rw [List.mem_singleton.1 hd]; rfl
  | term t => exact Term.forall_mem_source (hitems t (List.mem_filterMap.2 ⟨_, hitem, rfl⟩)) d hd

end Item

/-! ## Lines -/

/-- A line of a file, without the line break that ends it: the header of a rule, the same without its target, or a line
of a recipe. -/
inductive LineLayout where
  | header (indent : Nat) (target : Term) (gap : Nat) (items : List Item)
  | headless (items : List Item)
  | recipe (items : List Item)
  deriving DecidableEq, Repr

namespace LineLayout

def front : LineLayout → List Item
  | header indent target gap _ => List.replicate indent .space ++ .term target :: List.replicate gap .space
  | headless _                 => []
  | recipe _                   => []

/-- The colon of a header, or the tab of a line of a recipe. -/
def mark : LineLayout → Char
  | recipe _ => '\t'
  | _        => ':'

def markKind : LineLayout → Token.Kind
  | recipe _ => .tab
  | _        => .colon

def items : LineLayout → List Item
  | header _ _ _ items => items
  | headless items     => items
  | recipe items       => items

def source (line : LineLayout) : List Char := Item.sourceOf line.front ++ line.mark :: Item.sourceOf line.items

def lexemes (line : LineLayout) : List Lexeme :=
  Item.lexemesOf line.front ++ .mark line.markKind line.mark :: Item.lexemesOf line.items

/-- All terms of a line are such that `Q`, and no two names stand side by side. -/
structure MadeOf (Q : Term → Prop) (line : LineLayout) : Prop where
  front  : ∀ t ∈ Item.termsOf line.front, Q t
  items  : ∀ t ∈ Item.termsOf line.items, Q t
  spaced : Item.Spaced line.items

/-- Lines that can be written. -/
abbrev Fits (line : LineLayout) : Prop := line.MadeOf Term.IsWritable

theorem mem_termsOf_front {indent gap : Nat} {target t : Term} {items : List Item} :
    t ∈ Item.termsOf (header indent target gap items).front ↔ t = target := by
  simp [front, Item.termsOf, Item.term?, List.filterMap_append]

theorem Fits.target {indent gap : Nat} {target : Term} {items : List Item}
    (h : (header indent target gap items).Fits) : target.IsWritable := h.front target (mem_termsOf_front.2 rfl)

theorem fits_header {indent gap : Nat} {target : Term} {items : List Item} (htarget : target.IsWritable)
    (hitems : ∀ t ∈ Item.termsOf items, t.IsWritable) (hspaced : Item.Spaced items) :
    (header indent target gap items).Fits :=
  ⟨fun _ ht => mem_termsOf_front.1 ht ▸ htarget, hitems, hspaced⟩

theorem fits_recipe {items : List Item} (hitems : ∀ t ∈ Item.termsOf items, t.IsWritable)
    (hspaced : Item.Spaced items) : (recipe items).Fits := ⟨fun _ ht => (List.not_mem_nil ht).elim, hitems, hspaced⟩

theorem spaced_front (line : LineLayout) : Item.Spaced line.front := by
  cases line with
  | header indent target gap items =>
    apply Item.spaced_spaces_append
    refine List.isChain_cons.2 ⟨?_, ?_⟩
    · rintro item hitem ⟨-, hid⟩
      obtain rfl := List.eq_of_mem_replicate (List.mem_of_mem_head? hitem)
      cases hid
    · have hspaces : Item.Spaced (List.replicate gap .space ++ []) := Item.spaced_spaces_append .nil gap
      rwa [List.append_nil] at hspaces
  | headless _ => exact .nil
  | recipe _   => exact .nil

theorem Fits.spells_source {line : LineLayout} (h : line.Fits) {rest : List Char} {later : List Lexeme}
    (hstop : ∀ d ∈ rest.head?, isNameCharacter d = false) (hrest : Spells rest later) :
    Spells (line.source ++ rest) (line.lexemes ++ later) := by
  have hitems := Item.spells_sourceOf hstop hrest h.items h.spaced
  have hkind : Token.Kind.ofPunctuation? line.mark = some line.markKind := by cases line <;> rfl
  have hnewline : line.markKind ≠ .newline := by cases line <;> exact Token.Kind.noConfusion
  have hmark : isNameCharacter line.mark = false := by cases line <;> rfl
  have hfront := Item.spells_sourceOf (by simpa using hmark) (.mark hkind hnewline hitems) h.front line.spaced_front
  simpa [source, lexemes] using hfront

theorem source_ne_nil (line : LineLayout) : line.source ≠ [] := by simp [source]

theorem forall_mem_source {line : LineLayout} (h : line.Fits) : ∀ d ∈ line.source, isLineCharacter d = true := by
  intro d hd
  rcases List.mem_append.1 hd with hd | hd
  · exact Item.forall_mem_sourceOf h.front d hd
  rcases List.mem_cons.1 hd with rfl | hd
  · cases line <;> rfl
  · exact Item.forall_mem_sourceOf h.items d hd

end LineLayout

/-! ## Files -/

inductive LineBreak where
  | lineFeed
  | carriageReturn
  | both
  deriving DecidableEq, Repr

namespace LineBreak

def source : LineBreak → List Char
  | lineFeed       => ['\n']
  | carriageReturn => ['\r']
  | both           => ['\r', '\n']

def lexeme : LineBreak → Lexeme
  | both => .token .newline ['\n'] 2
  | _    => .token .newline ['\n'] 1

theorem forall_head?_source (b : LineBreak) (rest : List Char) :
    ∀ d ∈ (b.source ++ rest).head?, isNameCharacter d = false := by
  intro d hd
  cases b <;> (cases hd; rfl)

theorem spells_source (b : LineBreak) {rest : List Char} {later : List Lexeme}
    (hstop : ∀ d ∈ rest.head?, isLineCharacter d = true) (hrest : Spells rest later) :
    Spells (b.source ++ rest) (b.lexeme :: later) := by
  cases b with
  | lineFeed       => exact .cons (.lineFeed rest) hrest
  | both           => exact .cons (.carriageReturnLineFeed rest) hrest
  | carriageReturn =>
    refine .cons (.carriageReturn rest ?_) hrest
    intro h
    cases hstop '\n' h

end LineBreak

abbrev FileLayout := List (LineLayout × LineBreak)

namespace FileLayout

/-- The text of a file.  Unless it is `closed`, its very last line break is left out. -/
def source (closed : Bool) : FileLayout → List Char
  | []                    => []
  | (line, stop) :: later =>
    line.source ++ ((if closed || !later.isEmpty then stop.source else []) ++ source closed later)

def lexemes (closed : Bool) : FileLayout → List Lexeme
  | []                    => []
  | (line, stop) :: later =>
    line.lexemes ++ ((if closed || !later.isEmpty then [stop.lexeme] else []) ++ lexemes closed later)

theorem source_true : ∀ file : FileLayout, source true file = file.flatMap fun l => l.1.source ++ l.2.source
  | []                    => rfl
  | (line, stop) :: later => by rw [source, source_true later, List.flatMap_cons, List.append_assoc]; rfl

theorem forall_head?_source (closed : Bool) {file : FileLayout} (h : ∀ l ∈ file, l.1.Fits) :
    ∀ d ∈ (source closed file).head?, isLineCharacter d = true := by
  cases file with
  | nil             => simp [source]
  | cons line later =>
    obtain ⟨c, cs, hcs⟩ := List.exists_cons_of_ne_nil line.1.source_ne_nil
    intro d hd
    rw [source, hcs] at hd
    obtain rfl : c = d := Option.some.inj hd
    apply line.1.forall_mem_source (h line List.mem_cons_self)
    rw [hcs]
    exact List.mem_cons_self

/-- **The pieces of a layout's text are its lexemes.** -/
theorem spells_source (closed : Bool) :
    ∀ {file : FileLayout}, (∀ l ∈ file, l.1.Fits) → Spells (source closed file) (lexemes closed file)
  | [],                    _ => .nil
  | (line, stop) :: later, h => by
    have hline : line.Fits := h _ List.mem_cons_self
    have hlater : ∀ l ∈ later, l.1.Fits := fun l hl => h l (List.mem_cons_of_mem _ hl)
    have ih := spells_source closed hlater
    unfold source lexemes
    by_cases hstop : (closed || !later.isEmpty) = true
    · simp only [hstop, if_true]
      -- a carriage return would take a line feed with it, but no line begins with one
      have hbreak := stop.spells_source (forall_head?_source closed hlater) ih
      exact hline.spells_source (stop.forall_head?_source _) hbreak
    · obtain ⟨-, rfl⟩ : closed = false ∧ later = [] := by simpa using hstop
      simp only [hstop]
      exact hline.spells_source (fun d hd => by cases hd) .nil

end FileLayout
end RuleFile
