import Mathlib
import RuleFile.CommandLine.Directory
import RuleFile.Symbols
/-!
# Access to files

What the tool relies on of files is said without what they are kept in.  A view tells which file a path names and what a
file holds, and `FileAccess.Lawful` says what each operation does to these.  The directories of
`RuleFile/CommandLine/Directory.lean` keep these laws, wherever they are worked in (`Directory.lawful`).
-/
namespace RuleFile.CommandLine

/-! ## Laws

Two paths may name one file, and a file that no path names may still hold something.  So a file is not known by its
paths, and that others are left alone is said of files and of names apart. -/

structure FileView (σ file : Type) where
  named?   : σ → String → Option file
  content? : σ → file → Option ByteArray

namespace FileAccess

section

variable {σ file : Type}

/-- A path has been opened to write: it names a file, which is empty now.  If it named one before, then it is that and
no name has changed; else the file has been created, and only names of its own have come with it. -/
structure Opens (view : FileView σ file) (path : String) (s : σ) (opened : file) (s' : σ) : Prop where
  named   : view.named? s' path = some opened
  emptied : view.content? s' opened = some .empty
  found   : ∀ known, view.named? s path = some known → ∀ other, view.named? s' other = view.named? s other
  names   : ∀ known ≠ opened, ∀ other, view.named? s' other = some known ↔ view.named? s other = some known
  kept    : ∀ known ≠ opened, view.content? s' known = view.content? s known

/-- Bytes have been written into a file from its start, over what it held there. -/
structure Writes (view : FileView σ file) (written : file) (bytes old : ByteArray) (s s' : σ) : Prop where
  content : view.content? s' written = some (bytes ++ old.extract bytes.size old.size)
  names   : ∀ path, view.named? s' path = view.named? s path
  kept    : ∀ known ≠ written, view.content? s' known = view.content? s known

/-- **The laws of files.**  Reading changes nothing, and gives what the file holds that the path names.  An attempt to
open changes nothing, or the path is open.  Writing may fail; if it does not, then the bytes are there. -/
structure Lawful (files : FileAccess (StateM σ) file) (view : FileView σ file) : Prop where
  state_read   : ∀ path s, (files.read path s).2 = s
  read_ok      : ∀ {path s content}, (files.read path s).1 = .ok content →
    ∃ known, view.named? s path = some known ∧ view.content? s known = some content
  create_error : ∀ {path s fault}, (files.create path s).1 = .error fault → (files.create path s).2 = s
  create_ok    : ∀ {path s opened}, (files.create path s).1 = .ok opened →
    Opens view path s opened (files.create path s).2
  write_ok     : ∀ {written s old bytes}, view.content? s written = some old →
    (files.write written bytes s).1 = .ok () → Writes view written bytes old s (files.write written bytes s).2

/-- No write into a file fails. -/
def NeverFull (files : FileAccess (StateM σ) file) (view : FileView σ file) : Prop :=
  ∀ written s old bytes, view.content? s written = some old → (files.write written bytes s).1 = .ok ()

theorem Opens.eq_of_named {view : FileView σ file} {path : String} {s s' : σ} {opened known : file}
    (h : Opens view path s opened s') (hknown : view.named? s path = some known) : known = opened := by
  have hnamed := h.found known hknown path
  rw [h.named, hknown] at hnamed
  exact (Option.some.inj hnamed).symm

end
end FileAccess

/-! ## Entries of a directory -/

namespace Directory

theorem lookup_setEntry (path other : Path) (entry : Entry) : ∀ entries : List (Path × Entry),
    (setEntry path entry entries).lookup other = if other = path then some entry else entries.lookup other
  | []        => Symbols.lookup_entry (path, entry) [] other
  | e :: rest => by
    unfold setEntry
    split
    · rename_i heq
      rw [Symbols.lookup_entry, Symbols.lookup_entry, heq]
      split <;> rfl
    · rename_i hne
      rw [Symbols.lookup_entry, Symbols.lookup_entry, lookup_setEntry path other entry rest]
      by_cases h : other = e.1
      · rw [if_pos h, if_neg fun hpath => hne (h.symm.trans hpath), if_pos h]
      · rw [if_neg h, if_neg h]

/-- What the file holds that is at a place, if one is. -/
def content? (d : Directory) (place : Path) : Option ByteArray :=
  match d.entry? place with
  | some (.file content) => some content
  | _                    => none

theorem content?_eq_some {d : Directory} {place : Path} {content : ByteArray} :
    d.content? place = some content ↔ d.entry? place = some (.file content) := by
  unfold content?
  split <;> simp_all

section

variable {d : Directory} {place other : Path}

theorem entry?_setFile (hne : place ≠ []) (d : Directory) (content : ByteArray) (other : Path) :
    Directory.entry? (d.setFile place content) other =
      if other = place then some (.file content) else d.entry? other := by
  cases other with
  | nil            => exact (if_neg hne.symm).symm
  | cons name rest => exact lookup_setEntry place (name :: rest) (.file content) d.entries

theorem content?_setFile (hne : place ≠ []) (d : Directory) (content : ByteArray) (other : Path) :
    (d.setFile place content).content? other = if other = place then some content else d.content? other := by
  unfold content?
  rw [entry?_setFile hne]
  by_cases h : other = place
  · rw [if_pos h, if_pos h]
  · rw [if_neg h, if_neg h]

/-! ## Going through a directory

A file that is set makes no difference to where names lead, but to itself if it was missing: it is no directory, so no
name leads on from it. -/

theorem ne_nil_of_entry (hfile : d.entry? place ≠ some .directory) : place ≠ [] := by
  rintro rfl
  exact hfile rfl

theorem isDirectory_setFile (hfile : d.entry? place ≠ some .directory) (content : ByteArray) (other : Path) :
    (d.setFile place content).isDirectory other = d.isDirectory other := by
  unfold isDirectory
  rw [entry?_setFile (ne_nil_of_entry hfile)]
  by_cases h : other = place
  · rw [if_pos h, h, decide_eq_false hfile, decide_eq_false (by simp)]
  · rw [if_neg h]

theorem isSome_entry?_setFile (hfile : d.entry? place ≠ some .directory) (content : ByteArray)
    (h : other ≠ place ∨ (d.entry? place).isSome = true) :
    (Directory.entry? (d.setFile place content) other).isSome = (d.entry? other).isSome := by
  rw [entry?_setFile (ne_nil_of_entry hfile)]
  by_cases hother : other = place
  · rw [if_pos hother, hother, h.resolve_left (not_not_intro hother)]
    rfl
  · rw [if_neg hother]

/-- What a step can come to. -/
theorem step_eq_ok {start : Path} {name : String} : d.step start name = .ok other ↔
    d.isDirectory start = true ∧
      (if name = "" ∨ name = "." then other = start
       else if name = ".." then other = start.dropLast
       else ¬ nameLimit < name.utf8ByteSize ∧ other = start ++ [name] ∧ (d.entry? other).isSome = true) := by
  unfold step
  cases d.isDirectory start with
  | false => simp
  | true  =>
    rw [Bool.not_true, if_neg Bool.false_ne_true, and_iff_right rfl]
    by_cases hstay : name = "" ∨ name = "."
    · rw [if_pos hstay, if_pos hstay, Except.ok.injEq, eq_comm]
    rw [if_neg hstay, if_neg hstay]
    by_cases hback : name = ".."
    · rw [if_pos hback, if_pos hback, Except.ok.injEq, eq_comm]
    rw [if_neg hback, if_neg hback]
    by_cases hlength : nameLimit < name.utf8ByteSize
    · simp [hlength]
    rw [if_neg hlength, and_iff_right hlength]
    constructor
    · intro h
      split at h
      · cases h
        exact ⟨rfl, ‹_›⟩
      · cases h
    · rintro ⟨rfl, hfound⟩
      rw [if_pos hfound]

theorem step_setFile (hfile : d.entry? place ≠ some .directory) (content : ByteArray) (start : Path) (name : String)
    (h : other ≠ place ∨ (d.entry? place).isSome = true) :
    (d.setFile place content).step start name = .ok other ↔ d.step start name = .ok other := by
  rw [step_eq_ok, step_eq_ok, isDirectory_setFile hfile, isSome_entry?_setFile hfile content h]

theorem walk_cons_eq_ok {start : Path} {name : String} {names : List String} :
    d.walk start (name :: names) = .ok other ↔
      ∃ next, d.step start name = .ok next ∧ d.walk next names = .ok other := by
  rw [walk]
  cases d.step start name <;> simp

/-- Nothing leads on from what is no directory. -/
theorem eq_of_walk (hplace : d.isDirectory place = false) : ∀ {names : List String},
    d.walk place names = .ok other → other = place
  | [],        h => (Except.ok.inj h).symm
  | name :: _, h => by
    obtain ⟨next, hstep, -⟩ := walk_cons_eq_ok.1 h
    simp [step, hplace] at hstep

theorem walk_setFile (hfile : d.entry? place ≠ some .directory) (content : ByteArray)
    (h : other ≠ place ∨ (d.entry? place).isSome = true) : ∀ (names : List String) (start : Path),
    (d.setFile place content).walk start names = .ok other ↔ d.walk start names = .ok other
  | [],            _     => Iff.rfl
  | name :: names, start => by
    have hplace : d.isDirectory place = false := decide_eq_false hfile
    rw [walk_cons_eq_ok, walk_cons_eq_ok]
    refine exists_congr fun next => ?_
    rw [walk_setFile hfile content h names next]
    refine and_congr_left fun hwalk => step_setFile hfile content start name ?_
    exact h.imp_left fun hne heq => hne (eq_of_walk hplace (heq ▸ hwalk))

/-! ## Files that paths lead to -/

/-- The files of a directory, by the paths that lead to them from a place in it. -/
def view (current : Path) : FileView Directory Path where
  named? d path := (d.find current path).toOption.filter fun place => (d.content? place).isSome
  content?      := content?

variable {current : Path} {path : String} {content old : ByteArray}

theorem named?_eq_some : (view current).named? d path = some place ↔
    d.find current path = .ok place ∧ (d.content? place).isSome = true := by
  show (d.find current path).toOption.filter _ = _ ↔ _
  rw [Option.filter_eq_some_iff]
  cases d.find current path <;> simp [Except.toOption]

theorem read_eq_ok : d.read current path = .ok content ↔
    ∃ place, d.find current path = .ok place ∧ d.content? place = some content := by
  unfold read
  cases d.find current path with
  | error fault => simp
  | ok place    =>
    simp only [Except.ok.injEq, exists_eq_left', content?_eq_some]
    split <;> simp_all

theorem find_setFile (hfile : d.entry? place ≠ some .directory) (content : ByteArray)
    (h : other ≠ place ∨ (d.entry? place).isSome = true) :
    (d.setFile place content).find current path = .ok other ↔ d.find current path = .ok other := by
  unfold find
  cases pathFault? path with
  | some fault => exact Iff.rfl
  | none       => exact walk_setFile hfile content h _ _

theorem isSome_entry? (h : (d.content? place).isSome = true) : (d.entry? place).isSome = true := by
  obtain ⟨content, hcontent⟩ := Option.isSome_iff_exists.1 h
  rw [content?_eq_some.1 hcontent]
  rfl

/-- A file that is set is named as it was, and so is every other. -/
theorem named?_setFile (hfile : d.entry? place ≠ some .directory) (content : ByteArray)
    (h : other ≠ place ∨ (d.content? place).isSome = true) :
    (view current).named? (d.setFile place content) path = some other ↔ (view current).named? d path = some other := by
  have hcontent : ((d.setFile place content).content? other).isSome = (d.content? other).isSome := by
    rw [content?_setFile (ne_nil_of_entry hfile)]
    by_cases hother : other = place
    · rw [if_pos hother, hother, h.resolve_left (not_not_intro hother)]
      rfl
    · rw [if_neg hother]
  rw [named?_eq_some, named?_eq_some, find_setFile hfile content (h.imp_right isSome_entry?), hcontent]

/-! ## Files that are opened -/

/-- A path leads to a file that can be opened to write: the names in front of the last lead to a directory, and the last
names no directory in it. -/
structure Leads (d : Directory) (current : Path) (path : String) (front : List String) (parent : Path) (name : String) :
    Prop where
  sound      : pathFault? path = none
  names      : splitPath path.toList = front ++ [name]
  walk       : d.walk (origin current path) front = .ok parent
  directory  : d.isDirectory parent = true
  ordinary   : name ≠ "" ∧ name ≠ "." ∧ name ≠ ".."
  nameLength : ¬ nameLimit < name.utf8ByteSize
  file       : d.entry? (parent ++ [name]) ≠ some .directory

/-- Names are all that is left of them without the empty ones at their end, unless the last is empty. -/
theorem reverse_dropWhile_reverse {names : List String} (h : names.getLast? ≠ some "") :
    (names.reverse.dropWhile (· = "")).reverse = names := by
  rcases List.eq_nil_or_concat names with rfl | ⟨front, last, rfl⟩
  · rfl
  rw [List.concat_eq_append] at h ⊢
  have hlast : last ≠ "" := fun heq => h (by rw [List.getLast?_concat, heq])
  rw [List.reverse_append, List.reverse_singleton, List.singleton_append,
    List.dropWhile_cons_of_neg (by simpa using hlast), List.reverse_cons, List.reverse_reverse]

theorem exists_leads (h : d.fileAt current path = .ok place) :
    ∃ front parent name, d.Leads current path front parent name ∧ place = parent ++ [name] := by
  unfold fileAt at h
  simp only at h
  split at h
  · cases h
  rename_i hsound
  split at h
  · cases h
  rename_i parent hwalk
  split at h
  · cases h
  rename_i hdirectory
  split at h
  · cases h
  rename_i name hname
  split at h
  · cases h
  rename_i hdots
  split at h
  · cases h
  rename_i hlength
  split at h
  · cases h
  rename_i hfile
  obtain ⟨hdot, hdots, hempty⟩ : name ≠ "." ∧ name ≠ ".." ∧ (splitPath path.toList).getLast? ≠ some "" := by
    simpa only [not_or] using hdots
  rw [reverse_dropWhile_reverse hempty] at hwalk hname
  have hnames : splitPath path.toList = (splitPath path.toList).dropLast ++ [name] :=
    (List.dropLast_append_getLast? name hname).symm
  have hne : name ≠ "" := fun heq => hempty (heq ▸ hname)
  refine ⟨_, parent, name, ⟨hsound, hnames, hwalk, ?_, ⟨hne, hdot, hdots⟩, hlength, hfile⟩, (Except.ok.inj h).symm⟩
  simpa using hdirectory

theorem walk_append (later : List String) : ∀ {names : List String} {start : Path},
    d.walk start names = .ok place → d.walk start (names ++ later) = d.walk place later
  | [],            _,     h => by cases h; rfl
  | name :: names, start, h => by
    obtain ⟨next, hstep, hwalk⟩ := walk_cons_eq_ok.1 h
    rw [List.cons_append, walk, hstep]
    exact walk_append later hwalk

section

variable {front : List String} {parent : Path} {name : String}

/-- To be read, such a path leads to the same file, if it is there. -/
theorem Leads.find_eq_ok (h : d.Leads current path front parent name) :
    d.find current path = .ok other ↔ other = parent ++ [name] ∧ (d.entry? other).isSome = true := by
  obtain ⟨hne, hdot, hdots⟩ := h.ordinary
  unfold find
  rw [h.sound, h.names]
  show d.walk (origin current path) (front ++ [name]) = _ ↔ _
  rw [walk_append [name] h.walk, walk_cons_eq_ok]
  simp only [Directory.walk, Except.ok.injEq, exists_eq_right, step_eq_ok, h.directory, true_and]
  rw [if_neg (not_or.2 ⟨hne, hdot⟩), if_neg hdots, and_iff_right h.nameLength]

theorem Leads.setFile (h : d.Leads current path front parent name) (content : ByteArray) :
    (d.setFile (parent ++ [name]) content).Leads current path front parent name where
  __ := h
  walk      := (walk_setFile h.file content (.inl (by simp)) front _).2 h.walk
  directory := (isDirectory_setFile h.file content parent).trans h.directory
  file      := by
    rw [entry?_setFile (by simp), if_pos rfl]
    simp

end

open FileAccess (Opens Writes)

/-- **A path that is opened to write names its file from then on**, and all other files are as they were. -/
theorem opens_of_fileAt (h : d.fileAt current path = .ok place) :
    Opens (view current) path d place (d.setFile place .empty) := by
  obtain ⟨front, parent, name, hleads, rfl⟩ := exists_leads h
  have hne : parent ++ [name] ≠ [] := ne_nil_of_entry hleads.file
  have hemptied : (d.setFile (parent ++ [name]) .empty).content? (parent ++ [name]) = some .empty := by
    rw [content?_setFile hne, if_pos rfl]
  refine ⟨?_, hemptied, fun known hknown other => ?_, fun known hknown other => ?_, fun known hknown => ?_⟩
  · have hsome : ((d.setFile (parent ++ [name]) .empty).content? (parent ++ [name])).isSome = true := by
      rw [hemptied]
      rfl
    exact named?_eq_some.2 ⟨(hleads.setFile .empty).find_eq_ok.2 ⟨rfl, isSome_entry? hsome⟩, hsome⟩
  · -- a file that the path named before is this one, so no name leads to another
    obtain ⟨hfind, hcontent⟩ := named?_eq_some.1 hknown
    rw [(hleads.find_eq_ok.1 hfind).1] at hcontent
    exact Option.ext fun _ => named?_setFile hleads.file .empty (.inr hcontent)
  · exact named?_setFile hleads.file .empty (.inl hknown)
  · show (d.setFile _ _).content? known = d.content? known
    rw [content?_setFile hne, if_neg hknown]

theorem writes_of_content (h : d.content? place = some old) (bytes : ByteArray) :
    Writes (view current) place bytes old d (d.setFile place (bytes ++ old.extract bytes.size old.size)) := by
  have hfile : d.entry? place ≠ some .directory := by
    rw [content?_eq_some.1 h]
    simp
  have hsome : (d.content? place).isSome = true := by
    rw [h]
    rfl
  refine ⟨?_, fun path => Option.ext fun _ => named?_setFile hfile _ (.inr hsome), fun known hknown => ?_⟩
  · show (d.setFile _ _).content? place = _
    rw [content?_setFile (ne_nil_of_entry hfile), if_pos rfl]
  · show (d.setFile _ _).content? known = d.content? known
    rw [content?_setFile (ne_nil_of_entry hfile), if_neg hknown]

/-! ## Directories keep the laws -/

theorem write_eq_ok (h : d.content? place = some old) (bytes : ByteArray) :
    d.write place bytes = .ok (d.setFile place (bytes ++ old.extract bytes.size old.size)) := by
  rw [write, content?_eq_some.1 h]

/-- **Directories keep the laws of files**, wherever they are worked in. -/
theorem lawful (current : Path) : (access current).Lawful (view current) where
  state_read _ _ := rfl
  read_ok h := by
    obtain ⟨place, hfind, hcontent⟩ := read_eq_ok.1 h
    exact ⟨place, named?_eq_some.2 ⟨hfind, by rw [hcontent]; rfl⟩, hcontent⟩
  create_error {path d fault} h := by
    unfold access create at h ⊢
    cases hfile : d.fileAt current path <;> simp_all
  create_ok {path d opened} h := by
    unfold access create at h ⊢
    cases hfile : d.fileAt current path with
    | error fault => simp [hfile] at h
    | ok place    =>
      simp only [hfile, Except.ok.injEq] at h ⊢
      exact h ▸ opens_of_fileAt hfile
  write_ok {place d old bytes} h _ := by
    have hwrite := write_eq_ok h bytes
    simp only [access, hwrite]
    exact writes_of_content h bytes

theorem neverFull (current : Path) : (access current).NeverFull (view current) := by
  intro place d old bytes h
  have hwrite := write_eq_ok h bytes
  simp only [access, hwrite]

end
end Directory
end RuleFile.CommandLine
