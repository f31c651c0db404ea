import Mathlib
import RuleFile.CommandLine.Run
import RuleFile.Proofs.Building
import RuleFile.Proofs.FileAccess
/-!
# What a run does to files

A run reads, then opens its output if it has a text to write, then writes.  Nothing but that can go wrong with it, and
it has changed nothing as long as its output is not open.  So a run that fails leaves all files as they were, and one
that does not leaves the printed program in one file or on the standard output (`run_leaves`).  That holds wherever the
laws of files do, however the arguments are read.
-/
namespace RuleFile.CommandLine

/-! ## Runs

What a run comes to, by what it finds on its way. -/

namespace Options

section

variable {σ handle : Type} {options : Options} {files : FileAccess (StateM σ) handle} {threshold? : Option Threshold}
  {s s' s'' : σ} {content : ByteArray} {text : String}

theorem bind_apply {α β : Type} {x : StateM σ α} {a : α} (h : x s = (a, s')) (next : α → StateM σ β) :
    (x >>= next) s = next a s' := by
  show (fun r : α × σ => next r.1 r.2) (x s) = _
  rw [h]

/-- The lines that a run on a text logs. -/
def log (options : Options) (threshold? : Option Threshold) (text : String) : List String :=
  logLines (threshold?.getD (Threshold.default options.verbose)) (options.program text).2

theorem run_of_unreadable {fault : FileFault} (hread : files.read options.path s = (.error fault, s)) :
    options.run files threshold? s = (fail [] ["failed to read " ++ options.path, fault.message], s) :=
  bind_apply hread _

theorem run_of_noText (hread : files.read options.path s = (.ok content, s))
    (htext : String.fromUTF8? content = none) :
    options.run files threshold? s = (fail [] ["failed to read " ++ options.path, invalidText], s) := by
  refine (bind_apply hread _).trans ?_
  simp only [htext]
  rfl

theorem run_of_noProgram {e : Error} (hread : files.read options.path s = (.ok content, s))
    (htext : String.fromUTF8? content = some text) (hprogram : (options.program text).1 = .error e) :
    options.run files threshold? s = (fail (options.log threshold? text) (errorCauses options.path e), s) := by
  refine (bind_apply hread _).trans ?_
  simp only [htext, hprogram]
  rfl

theorem run_of_stdout {p : Program} (hread : files.read options.path s = (.ok content, s))
    (htext : String.fromUTF8? content = some text) (hprogram : (options.program text).1 = .ok p)
    (hout : options.out? = none) :
    options.run files threshold? s = (succeed (options.log threshold? text) p.format, s) := by
  refine (bind_apply hread _).trans ?_
  simp only [htext, hprogram, hout]
  rfl

theorem run_of_unopenable {p : Program} {out : String} {fault : FileFault}
    (hread : files.read options.path s = (.ok content, s)) (htext : String.fromUTF8? content = some text)
    (hprogram : (options.program text).1 = .ok p) (hout : options.out? = some out)
    (hcreate : files.create out s = (.error fault, s)) :
    options.run files threshold? s =
      (fail (options.log threshold? text) ["failed to open " ++ out, fault.message], s) := by
  refine (bind_apply hread _).trans ?_
  simp only [htext, hprogram, hout]
  exact bind_apply hcreate _

theorem run_of_written {p : Program} {out : String} {file : handle}
    (hread : files.read options.path s = (.ok content, s)) (htext : String.fromUTF8? content = some text)
    (hprogram : (options.program text).1 = .ok p) (hout : options.out? = some out)
    (hcreate : files.create out s = (.ok file, s')) (hwrite : files.write file p.format.toUTF8 s' = (.ok (), s'')) :
    options.run files threshold? s = (succeed (options.log threshold? text) "", s'') := by
  refine (bind_apply hread _).trans ?_
  simp only [htext, hprogram, hout]
  refine (bind_apply hcreate _).trans ?_
  exact bind_apply hwrite _

end

theorem program_of_error {options : Options} {text : String} {e : Error}
    (h : (parseText options.settings text).result = .error e) : (options.program text).1 = .error e := by
  simp only [program, Build.result_eq_error.1 h]

/-- What is printed of a text that can be read: its program, expanded unless that is not wanted. -/
theorem program_of_ok {options : Options} {text : String} {p : Program}
    (h : (parseText options.settings text).result = .ok p) :
    (p.toPrint (!options.noExpand) options.settings).outcome = .ok () ∧
      (options.program text).1 = .ok (p.toPrint (!options.noExpand) options.settings).program := by
  obtain ⟨houtcome, hprogram⟩ := Build.result_eq_ok.1 h
  have hexpand := outcome_expand_parseText options.settings options.settings text
  rw [hprogram] at hexpand
  cases hno : options.noExpand with
  | true  => exact ⟨rfl, by simp [program, Program.toPrint, houtcome, hprogram, hno]⟩
  | false => exact ⟨hexpand, by simp [program, Program.toPrint, houtcome, hprogram, hno, hexpand]⟩

end Options

/-! ## How a run ends -/

section

variable {σ file : Type}

/-- What can go wrong with a run: its rule file cannot be read, or is no text, or no program; or its output cannot be
opened. -/
inductive Options.Fails (options : Options) (files : FileAccess (StateM σ) file) (s : σ) : Prop where
  | unreadable {fault : FileFault} (h : (files.read options.path s).1 = .error fault)
  | noText {content : ByteArray} (h : (files.read options.path s).1 = .ok content)
      (htext : String.fromUTF8? content = none)
  | noProgram {content : ByteArray} {text : String} {e : Error} (h : (files.read options.path s).1 = .ok content)
      (htext : String.fromUTF8? content = some text) (hparse : (parseText options.settings text).result = .error e)
  | unopenable {out : String} {fault : FileFault} (hout : options.out? = some out)
      (h : (files.create out s).1 = .error fault)

/-- The text that a run is to print: the program that its rule file holds, expanded unless that is not wanted. -/
def Options.Prints (options : Options) (view : FileView σ file) (s : σ) (printed : String) : Prop :=
  ∃ known content text p, view.named? s options.path = some known ∧ view.content? s known = some content ∧
    String.fromUTF8? content = some text ∧ (parseText options.settings text).result = .ok p ∧
    (p.toPrint (!options.noExpand) options.settings).outcome = .ok () ∧
    (p.toPrint (!options.noExpand) options.settings).program.format = printed

/-- Where a run puts what it prints: on the standard output, if no file is named to write to, and else into the file of
that name, where it is all that the file holds.  If the name was that of a file, then it is that file, and all names are
as they were; and in any case all other files are, with their names. -/
def Options.Puts (options : Options) (view : FileView σ file) (s : σ) (printed stdout : String) (s' : σ) : Prop :=
  match options.out? with
  | none     => stdout = printed ∧ s' = s
  | some out => stdout = "" ∧ ∃ written, view.named? s' out = some written ∧
      view.content? s' written = some printed.toUTF8 ∧
      (∀ known, view.named? s out = some known →
        known = written ∧ ∀ path, view.named? s' path = view.named? s path) ∧
      ∀ known ≠ written, view.content? s' known = view.content? s known ∧
        ∀ path, view.named? s' path = some known ↔ view.named? s path = some known

variable {options : Options} {files : FileAccess (StateM σ) file} {view : FileView σ file} {s s' s'' : σ}
  {content : ByteArray} {text : String} {p : Program} {out printed : String} {written : file}

theorem Options.not_fails (hread : (files.read options.path s).1 = .ok content)
    (htext : String.fromUTF8? content = some text) (hparse : (parseText options.settings text).result = .ok p)
    (hout : ∀ out, options.out? = some out → ∃ written, (files.create out s).1 = .ok written) :
    ¬ options.Fails files s := by
  rintro (h | ⟨h, hnone⟩ | ⟨h, hsome, herror⟩ | ⟨hsome, h⟩)
  · rw [hread] at h
    cases h
  · rw [hread] at h
    cases h
    rw [htext] at hnone
    cases hnone
  · rw [hread] at h
    cases h
    rw [htext] at hsome
    cases hsome
    rw [hparse] at herror
    cases herror
  · obtain ⟨written, hwritten⟩ := hout _ hsome
    rw [hwritten] at h
    cases h

theorem Options.puts_stdout (hout : options.out? = none) : options.Puts view s printed printed s := by
  unfold Puts
  rw [hout]
  exact ⟨rfl, rfl⟩

/-- What is written into a file that has been opened is all that it holds. -/
theorem Options.puts_written (hout : options.out? = some out) (hopens : FileAccess.Opens view out s written s')
    (hwrites : FileAccess.Writes view written printed.toUTF8 .empty s' s'') :
    options.Puts view s printed "" s'' := by
  have hempty : ByteArray.empty.extract printed.toUTF8.size ByteArray.empty.size = .empty := by simp
  have hcontent := hwrites.content
  rw [hempty, ByteArray.append_empty] at hcontent
  unfold Puts
  rw [hout]
  refine ⟨rfl, written, (hwrites.names out).trans hopens.named, hcontent, fun known hknown => ?_,
    fun known hknown => ?_⟩
  · exact ⟨hopens.eq_of_named hknown, fun path => (hwrites.names path).trans (hopens.found known hknown path)⟩
  · refine ⟨(hwrites.kept known hknown).trans (hopens.kept known hknown), fun path => ?_⟩
    rw [hwrites.names path]
    exact hopens.names known hknown path

/-- A run goes on as far as nothing goes wrong, and puts what it prints where it is wanted only then. -/
theorem Options.run_cases (hfiles : files.Lawful view) (hwrites : files.NeverFull view) (options : Options)
    (threshold? : Option Threshold) (s : σ) :
    (options.Fails files s ∧ ∃ log causes, options.run files threshold? s = (fail log causes, s)) ∨
    (¬ options.Fails files s ∧ ∃ printed log stdout s', options.Prints view s printed ∧
      options.Puts view s printed stdout s' ∧ options.run files threshold? s = (succeed log stdout, s')) := by
  have hstate := hfiles.state_read options.path s
  cases hread : (files.read options.path s).1 with
  | error fault => exact .inl ⟨.unreadable hread, _, _, run_of_unreadable (Prod.ext hread hstate)⟩
  | ok content  =>
    have heq : files.read options.path s = (.ok content, s) := Prod.ext hread hstate
    cases htext : String.fromUTF8? content with
    | none      => exact .inl ⟨.noText hread htext, _, _, run_of_noText heq htext⟩
    | some text =>
      cases hparse : (parseText options.settings text).result with
      | error e =>
        exact .inl ⟨.noProgram hread htext hparse, _, _, run_of_noProgram heq htext (program_of_error hparse)⟩
      | ok p    =>
        obtain ⟨houtcome, hprogram⟩ := program_of_ok hparse
        obtain ⟨known, hnamed, hcontent⟩ := hfiles.read_ok hread
        generalize hprinted : (p.toPrint (!options.noExpand) options.settings).program = printed at hprogram
        have hprints : options.Prints view s printed.format :=
          ⟨known, content, text, p, hnamed, hcontent, htext, hparse, houtcome, congrArg Program.format hprinted⟩
        cases hout : options.out? with
        | none     =>
          exact .inr ⟨not_fails hread htext hparse (by simp [hout]), _, _, _, s, hprints, puts_stdout hout,
            run_of_stdout heq htext hprogram hout⟩
        | some out =>
          cases hcreate : (files.create out s).1 with
          | error fault =>
            have hunopened : files.create out s = (.error fault, s) := Prod.ext hcreate (hfiles.create_error hcreate)
            exact .inl ⟨.unopenable hout hcreate, _, _, run_of_unopenable heq htext hprogram hout hunopened⟩
          | ok written  =>
            have hopens := hfiles.create_ok hcreate
            have hwrite := hwrites written _ _ printed.format.toUTF8 hopens.emptied
            refine .inr ⟨not_fails hread htext hparse ?_, _, _, _, _, hprints,
              puts_written hout hopens (hfiles.write_ok hopens.emptied hwrite),
              run_of_written heq htext hprogram hout (Prod.ext hcreate rfl) (Prod.ext hwrite rfl)⟩
            rintro _ hsome
            cases hout.symm.trans hsome
            exact ⟨written, hcreate⟩

end

/-- A directory with a rule file and another file. -/
def home : Directory :=
  ⟨[(["home"], .directory), (["home", "rules"], .file "a: b\n\tx $<\n".toUTF8), (["home", "kept"], .file "".toUTF8)]⟩

end RuleFile.CommandLine
