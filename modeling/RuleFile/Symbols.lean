/-!
# Symbols

What is known of the variables of a program: a value for each name, in the order of the names.  Two tables that know
the same are equal.
-/
namespace RuleFile

structure Symbols where
  entries : List (String × String)
  sorted  : entries.Pairwise (·.1 < ·.1)
  deriving DecidableEq

namespace Symbols

def empty : Symbols := ⟨[], .nil⟩

instance : Inhabited Symbols := ⟨empty⟩

/-- Puts an entry in its place; one of the same name is replaced. -/
def insertEntry (name value : String) : List (String × String) → List (String × String)
  | []        => [(name, value)]
  | e :: rest =>
    if name < e.1 then (name, value) :: e :: rest
    else if name = e.1 then (name, value) :: rest
    else e :: insertEntry name value rest

theorem mem_insertEntry {name value : String} {e : String × String} :
    ∀ {entries : List (String × String)},
      e ∈ insertEntry name value entries → e = (name, value) ∨ e ∈ entries
  | [],        h => by simpa [insertEntry] using h
  | x :: rest, h => by
    unfold insertEntry at h
    split at h
    · simpa using h
    · split at h
      · rcases List.mem_cons.1 h with h | h
        · exact .inl h
        · exact .inr (List.mem_cons_of_mem _ h)
      · rcases List.mem_cons.1 h with h | h
        · exact .inr (h ▸ List.mem_cons_self)
        · exact (mem_insertEntry h).imp id (List.mem_cons_of_mem _)

theorem lt_of_not_lt_of_ne {a b : String} (h : ¬ a < b) (hne : a ≠ b) : b < a :=
  Decidable.byContradiction fun h' => hne (String.le_antisymm (String.not_lt.1 h') (String.not_lt.1 h))

theorem sorted_insertEntry {name value : String} :
    ∀ {entries : List (String × String)}, entries.Pairwise (·.1 < ·.1) →
      (insertEntry name value entries).Pairwise (·.1 < ·.1)
  | [],        _ => List.pairwise_singleton _ _
  | x :: rest, h => by
    have hx := List.pairwise_cons.1 h
    unfold insertEntry
    split
    · rename_i hlt
      refine List.pairwise_cons.2 ⟨fun e he => ?_, h⟩
      rcases List.mem_cons.1 he with rfl | he
      · exact hlt
      · exact String.lt_trans hlt (hx.1 e he)
    · split
      · rename_i heq
        exact List.pairwise_cons.2 ⟨fun e he => heq ▸ hx.1 e he, hx.2⟩
      · rename_i hlt hne
        refine List.pairwise_cons.2 ⟨fun e he => ?_, sorted_insertEntry hx.2⟩
        rcases mem_insertEntry he with rfl | he
        · exact lt_of_not_lt_of_ne hlt hne
        · exact hx.1 e he

/-- Records a value for a name in place of any earlier one. -/
def define (symbols : Symbols) (name value : String) : Symbols :=
  ⟨insertEntry name value symbols.entries, sorted_insertEntry symbols.sorted⟩

def get? (symbols : Symbols) (name : String) : Option String :=
  symbols.entries.lookup name

def size (symbols : Symbols) : Nat := symbols.entries.length

def isEmpty (symbols : Symbols) : Bool := symbols.entries.isEmpty

/-- The names with their values, in the order of the names. -/
def toList (symbols : Symbols) : List (String × String) := symbols.entries

/-- The table of a list of entries; of two entries for one name the later counts. -/
def ofList (entries : List (String × String)) : Symbols :=
  entries.foldl (fun symbols e => symbols.define e.1 e.2) empty

/-! ## What a definition changes -/

theorem ext {s t : Symbols} (h : s.entries = t.entries) : s = t := by
  cases s; cases t; simp_all

theorem lookup_entry {α β : Type} [BEq α] [LawfulBEq α] [DecidableEq α] (e : α × β) (rest : List (α × β)) (name : α) :
    (e :: rest).lookup name = if name = e.1 then some e.2 else rest.lookup name := by
  rw [List.lookup_cons]
  by_cases h : name = e.1
  · simp [h]
  · simp [h, beq_eq_false_iff_ne.2 h]

theorem lookup_insertEntry (name value other : String) : ∀ entries : List (String × String),
    (insertEntry name value entries).lookup other =
      if other = name then some value else entries.lookup other
  | []        => lookup_entry (name, value) [] other
  | e :: rest => by
    have ih := lookup_insertEntry name value other rest
    unfold insertEntry
    split
    · exact lookup_entry _ _ _
    · split
      · rename_i heq
        rw [lookup_entry, lookup_entry, ← heq]
        split <;> rfl
      · rename_i hne
        rw [lookup_entry, lookup_entry, ih]
        by_cases h : other = name
        · have hne' : other ≠ e.1 := fun h' => hne (h.symm.trans h')
          rw [if_pos h, if_neg hne', if_pos h]
        · rw [if_neg h, if_neg h]

theorem get?_define (symbols : Symbols) (name value other : String) :
    (symbols.define name value).get? other = if other = name then some value else symbols.get? other :=
  lookup_insertEntry name value other symbols.entries

theorem insertEntry_insertEntry (name v w : String) : ∀ entries : List (String × String),
    insertEntry name w (insertEntry name v entries) = insertEntry name w entries
  | []        => by simp [insertEntry]
  | e :: rest => by
    have ih := insertEntry_insertEntry name v w rest
    by_cases h : name < e.1
    · simp [insertEntry, h]
    · by_cases h' : name = e.1
      · simp [insertEntry, h']
      · simp [insertEntry, h, h', ih]

/-- Of two definitions of one name the later counts. -/
theorem define_define (symbols : Symbols) (name v w : String) :
    (symbols.define name v).define name w = symbols.define name w :=
  ext (insertEntry_insertEntry name v w symbols.entries)

end Symbols
end RuleFile
