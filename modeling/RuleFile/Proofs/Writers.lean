import Mathlib
import RuleFile.Proofs.RoundTrip
/-!
# Printing by writes

The printer writes a program piece by piece, in loops within loops, and each of its writes may be refused.
`Program.print` does so into whatever text can be written to, a `Writer`.  It does nothing but hand over the output of
the program in its order (`Program.print_eq_forM`), up to the first text that is refused (`runOn_text`).  So a sink
holds as many characters of the printed program as it has room for (`Sink.held_writeAll`), a buffer as many bytes
(`Buffer.writeAll_eq`), and a text that takes everything holds all of it (`printInto_string`).
-/
namespace RuleFile

/-! ## Writers -/

/-- What text can be written to: a write says whether all of the text was taken. -/
class Writer (σ : Type) where
  write : σ → String → σ × Bool

/-- A text takes what is written behind it. -/
instance : Writer String := ⟨fun held s => (held ++ s, true)⟩

instance : Writer Sink := ⟨Sink.write⟩

/-- A step of printing: it writes and reports, and goes on unless a text is refused. -/
abbrev Printer (σ : Type) := EStateM Unit (σ × List Event)

namespace Printer

variable {σ : Type}

def text [Writer σ] (s : String) : Printer σ Unit := fun (writer, events) =>
  match Writer.write writer s with
  | (writer', true)  => .ok () (writer', events)
  | (writer', false) => .error () (writer', events)

def report (event : Event) : Printer σ Unit := modify fun (writer, events) => (writer, events ++ [event])

/-- Hands over a piece of output. -/
def put [Writer σ] : Output → Printer σ Unit
  | .text s       => text s
  | .report event => report event

end Printer

/-- What came of printing: where it was written to, the reports, and whether everything was taken. -/
structure Printed (σ : Type) where
  writer   : σ
  events   : List Event
  complete : Bool

def Printer.runOn {σ : Type} (printer : Printer σ Unit) (writer : σ) (events : List Event) : Printed σ :=
  match printer (writer, events) with
  | .ok () (writer', events')    => ⟨writer', events', true⟩
  | .error () (writer', events') => ⟨writer', events', false⟩

open Printer

section

variable {σ : Type} [Writer σ]

/-- Prints the line of a rule and the lines of its recipe. -/
def Rule.print (rule : Rule) : Printer σ Unit := do
  text rule.target.value
  text ":"
  forM rule.prerequisites fun t => do
    text " "
    text t.value
  text "\n"
  forM rule.recipe fun line => do
    text "\t"
    text (Term.joined line)
    text "\n"

def Statement.print : Statement → Printer σ Unit
  | .rule r         => r.print
  | .assignment _ _ => report .assignmentNotPrinted

def Program.print (program : Program) : Printer σ Unit := forM program.statements Statement.print

def Program.printInto (program : Program) (writer : σ) : Printed σ := (program.print).runOn writer []

end

/-- A program as it is shown. -/
instance : ToString Program := ⟨fun program => (program.printInto "").writer⟩

/-! ## One write after the other -/

theorem forM_flatMap {m : Type → Type} [Monad m] [LawfulMonad m] {α β : Type} (f : α → List β) (g : β → m Unit) :
    ∀ xs : List α, forM (xs.flatMap f) g = forM xs fun x => forM (f x) g
  | []      => rfl
  | x :: xs => by rw [List.flatMap_cons, List.forM_append, List.forM_cons, forM_flatMap f g xs]

section

variable {σ : Type} [Writer σ]

theorem Rule.print_eq_forM (rule : Rule) : (rule.print : Printer σ Unit) = forM rule.texts text := by
  rw [Rule.texts, List.cons_append, List.cons_append, List.forM_cons, List.forM_cons, List.forM_append,
    List.forM_cons, forM_flatMap, forM_flatMap]
  simp only [List.forM_cons, List.forM_nil, bind_pure_unit]
  rfl

theorem Statement.print_eq_forM (statement : Statement) :
    (statement.print : Printer σ Unit) = forM statement.output put := by
  cases statement with
  | rule r =>
    rw [Statement.output, List.forM_map]
    exact r.print_eq_forM
  | assignment _ _ =>
    rw [Statement.output, List.forM_cons, List.forM_nil, bind_pure_unit]
    rfl

/-- **Printing hands over the output of a program**, one text or report after the other. -/
theorem Program.print_eq_forM (program : Program) : (program.print : Printer σ Unit) = forM program.output put := by
  rw [Program.output, forM_flatMap]
  exact congrArg (forM program.statements) (funext Statement.print_eq_forM)

theorem runOn_report (event : Event) (later : List Output) (writer : σ) (events : List Event) :
    Printer.runOn (forM (.report event :: later) put) writer events =
      Printer.runOn (forM later put) writer (events ++ [event]) := rfl

/-- A text that is refused ends the printing, in whatever loop it was written. -/
theorem runOn_text (s : String) (later : List Output) (writer : σ) (events : List Event) :
    Printer.runOn (forM (.text s :: later) put) writer events =
      if (Writer.write writer s).2 then Printer.runOn (forM later put) (Writer.write writer s).1 events
      else ⟨(Writer.write writer s).1, events, false⟩ := by
  rw [List.forM_cons]
  show Printer.runOn (EStateM.bind (text s) fun _ => forM later put) writer events = _
  unfold Printer.runOn EStateM.bind text
  cases h : Writer.write writer s with
  | mk writer' complete =>
    simp only [h]
    cases complete <;> rfl

end

theorem joined_text (s : String) (later : List Output) : Output.joined (.text s :: later) = s ++ Output.joined later :=
  String.join_cons

/-! ## Into a text -/

/-- A text takes all of an output. -/
theorem runOn_string : ∀ (output : List Output) (held : String) (events : List Event),
    Printer.runOn (forM output put) held events = ⟨held ++ Output.joined output, events ++ Output.events output, true⟩
  | [],                    held, events => by
    show (⟨held, events, true⟩ : Printed String) = ⟨held ++ "", events ++ [], true⟩
    rw [String.append_empty, List.append_nil]
  | .text s :: later,      held, events => by
    rw [runOn_text, joined_text, ← String.append_assoc]
    exact runOn_string later (held ++ s) events
  | .report event :: later, held, events => by
    rw [runOn_report, runOn_string later, List.append_assoc]
    rfl

theorem printInto_string (program : Program) (held : String) :
    program.printInto held = ⟨held ++ program.format, program.formatEvents, true⟩ := by
  rw [Program.printInto, Program.print_eq_forM, runOn_string, List.nil_append]
  rfl

/-! ## Into a sink -/

/-- What is written into a sink is what the sink takes of the output. -/
theorem runOn_sink : ∀ (output : List Output) (sink : Sink) (events : List Event),
    Printer.runOn (forM output put) sink events =
      ⟨(sink.writeAll output).sink, events ++ (sink.writeAll output).events, (sink.writeAll output).complete⟩
  | [],                     sink, events => by
    show (⟨sink, events, true⟩ : Printed Sink) = ⟨sink, events ++ [], true⟩
    rw [List.append_nil]
  | .text s :: later,       sink, events => by
    rw [runOn_text, Sink.writeAll]
    show (if (sink.write s).2 then Printer.runOn (forM later put) (sink.write s).1 events
      else ⟨(sink.write s).1, events, false⟩) = _
    cases h : sink.write s with
    | mk sink' complete =>
      cases complete with
      | true  => exact runOn_sink later sink' events
      | false => exact congrArg (fun later => (⟨sink', later, false⟩ : Printed Sink)) (List.append_nil events).symm
  | .report event :: later, sink, events => by
    rw [runOn_report, runOn_sink later, List.append_assoc]
    rfl

theorem printInto_sink (program : Program) (sink : Sink) :
    program.printInto sink =
      ⟨(program.render sink).sink, (program.render sink).events, (program.render sink).complete⟩ := by
  rw [Program.printInto, Program.print_eq_forM, runOn_sink, List.nil_append]
  rfl

theorem Sink.write_of_le {sink : Sink} {s : String} (h : s.length ≤ sink.room) :
    sink.write s = (⟨sink.held ++ s, sink.room - s.length⟩, true) := if_pos h

theorem Sink.write_of_lt {sink : Sink} {s : String} (h : sink.room < s.length) :
    sink.write s = (⟨sink.held ++ String.ofList (s.toList.take sink.room), 0⟩, false) := if_neg (Nat.not_le.2 h)

/-- **A sink takes as many characters of an output as it has room for**, and is complete if these are all of them. -/
theorem Sink.held_writeAll : ∀ (output : List Output) (sink : Sink),
    (sink.writeAll output).sink.held = sink.held ++ String.ofList ((Output.joined output).toList.take sink.room) ∧
    ((sink.writeAll output).complete = true ↔ (Output.joined output).length ≤ sink.room)
  | [],                     sink => by simp [Sink.writeAll, Output.joined]
  | .text s :: later,       sink => by
    rw [joined_text, String.toList_append, String.length_append, List.take_append, String.length_toList, Sink.writeAll]
    by_cases h : s.length ≤ sink.room
    · obtain ⟨hheld, hcomplete⟩ := held_writeAll later ⟨sink.held ++ s, sink.room - s.length⟩
      have hall : s.toList.take sink.room = s.toList := List.take_of_length_le (by rwa [String.length_toList])
      rw [Sink.write_of_le h, hall, String.ofList_append, String.ofList_toList, ← String.append_assoc]
      exact ⟨hheld, hcomplete.trans (by show _ ≤ sink.room - s.length ↔ _; omega)⟩
    · have hnone : sink.room - s.length = 0 := by omega
      rw [Sink.write_of_lt (Nat.not_le.1 h), hnone, List.take_zero, List.append_nil]
      exact ⟨rfl, fun htaken => absurd htaken Bool.false_ne_true, fun hle => absurd hle (by omega)⟩
  | .report event :: later, sink => held_writeAll later sink

/-! ## Into a buffer -/

/-- **A buffer takes as many bytes as it has room for**, however often is written, and says whether these are all. -/
theorem Buffer.writeAll_eq (buffer : Buffer) (bytes : ByteArray) :
    buffer.writeAll bytes = (⟨buffer.held ++ bytes.extract 0 (min bytes.size buffer.room), buffer.room - bytes.size⟩,
      decide (bytes.size ≤ buffer.room)) := by
  fun_induction Buffer.writeAll buffer bytes with
  | case1 buffer bytes hsize =>
    have hnone : bytes.extract 0 (min bytes.size buffer.room) = .empty := by
      rw [ByteArray.extract_eq_empty_iff]
      omega
    rw [hnone, ByteArray.append_empty, hsize]
    rfl
  | case2 buffer bytes hsize buffer' hwrite =>
    obtain ⟨htaken, rfl⟩ := Prod.mk.inj hwrite
    have hroom : buffer.room = 0 := by omega
    rw [htaken, hroom, Nat.zero_sub, Nat.zero_sub, decide_eq_false (by omega)]
  | case3 buffer bytes hsize taken buffer' hwrite htaken ih =>
    obtain ⟨rfl, rfl⟩ := Prod.mk.inj hwrite
    generalize hleft : bytes.extract (min bytes.size buffer.room) bytes.size = left at ih ⊢
    have hsize : left.size = bytes.size - min bytes.size buffer.room := by
      rw [← hleft, ByteArray.size_extract, Nat.min_self]
    -- nothing is left, or there is no room for it
    have hnone : left.extract 0 (min left.size (buffer.room - min bytes.size buffer.room)) = .empty := by
      rw [ByteArray.extract_eq_empty_iff]
      omega
    have hroom : buffer.room - min bytes.size buffer.room - left.size = buffer.room - bytes.size := by omega
    have hall : left.size ≤ buffer.room - min bytes.size buffer.room ↔ bytes.size ≤ buffer.room := by omega
    rw [ih]
    show (Buffer.mk (buffer.held ++ _ ++ left.extract 0 _) _, decide _) = _
    rw [hnone, hroom, ByteArray.append_empty, decide_eq_decide.2 hall]

theorem writeTo_eq (program : Program) (room : Nat) : program.writeTo room =
    (program.format.toUTF8.extract 0 (min program.format.toUTF8.size room),
      decide (program.format.toUTF8.size ≤ room)) := by
  rw [Program.writeTo, Buffer.writeAll_eq]
  exact congrArg (·, _) ByteArray.empty_append

/-! ## The printed text -/

theorem join_flatMap {α : Type} (f : α → List String) : ∀ xs : List α,
    String.join (xs.flatMap f) = String.join (xs.map fun x => String.join (f x))
  | []      => rfl
  | x :: xs => by rw [List.flatMap_cons, List.map_cons, String.join_append, String.join_cons, join_flatMap f xs]

/-- A rule as it is printed: its line, and a line behind a tab for each line of its recipe. -/
def Rule.printed (rule : Rule) : String :=
  rule.target.value ++ ":" ++ String.join (rule.prerequisites.map fun t => " " ++ t.value) ++ "\n" ++
    String.join (rule.recipe.map fun line => "\t" ++ " ".intercalate (line.map Term.value) ++ "\n")

theorem Rule.join_texts (rule : Rule) : String.join rule.texts = rule.printed := by
  have hprerequisites : (rule.prerequisites.map fun t => String.join [" ", t.value]) =
      rule.prerequisites.map fun t => " " ++ t.value :=
    List.map_congr_left fun t _ => by simp
  have hrecipe : (rule.recipe.map fun line => String.join ["\t", Term.joined line, "\n"]) =
      rule.recipe.map fun line => "\t" ++ " ".intercalate (line.map Term.value) ++ "\n" :=
    List.map_congr_left fun line _ => by simp [Term.joined, Term.values_eq_map, String.append_assoc]
  rw [texts, List.cons_append, String.join_cons, List.cons_append, String.join_cons, String.join_append,
    String.join_cons, join_flatMap, join_flatMap, hprerequisites, hrecipe, printed]
  simp only [String.append_assoc]

theorem format_eq_join (program : Program) : program.format = String.join (program.rules.map Rule.printed) := by
  rw [Program.format, Output.joined, Program.output, Program.filterMap_text?_output, join_flatMap]
  exact congrArg String.join (List.map_congr_left fun rule _ => rule.join_texts)

/-! ## All ways to print -/

/-- **All ways to print a program agree, and what cannot take all of it holds the front of it.**  A sink with room for
`n` characters holds the first `n` of the text, a buffer with room for `n` bytes its first `n` bytes, and each says
whether these are all; written into a text, it is shown as it is formatted.  The text is that of its rules, one after
the other, with a recipe line as a term joined in the same way. -/
theorem Program.prints (program : Program) (n : Nat) :
    (program.render (.ofRoom n)).sink.held = String.ofList (program.format.toList.take n) ∧
    ((program.render (.ofRoom n)).complete = true ↔ program.format.length ≤ n) ∧
    program.printInto (Sink.ofRoom n) = ⟨(program.render (.ofRoom n)).sink, (program.render (.ofRoom n)).events,
      (program.render (.ofRoom n)).complete⟩ ∧
    (program.writeTo n).1 = program.format.toUTF8.extract 0 (min program.format.toUTF8.size n) ∧
    ((program.writeTo n).2 = true ↔ program.format.toUTF8.size ≤ n) ∧
    toString program = program.format ∧ (program.printInto "").complete = true ∧
    program.format = String.join (program.rules.map Rule.printed) ∧
    ∀ terms, (Term.command terms).value = " ".intercalate (terms.map Term.value) := by
  obtain ⟨hheld, hcomplete⟩ := Sink.held_writeAll program.output (.ofRoom n)
  refine ⟨?_, hcomplete, printInto_sink program _, ?_, ?_, ?_, ?_, format_eq_join program, fun terms => ?_⟩
  · exact hheld.trans String.empty_append
  · rw [writeTo_eq]
  · rw [writeTo_eq]
    exact decide_eq_true_iff
  · show (program.printInto "").writer = _
    rw [printInto_string, String.empty_append]
  · rw [printInto_string]
  · rw [Term.value, Term.values_eq_map]

end RuleFile
