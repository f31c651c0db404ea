import RuleFile.Buffer
import RuleFile.Program
import RuleFile.Sink
/-!
# Printing

A rule is written as a line `target: prerequisite ...` and a line for each line of its recipe, behind a tab.  Terms are
written with the text they stand for, so a program should be expanded first.  Assignments are not written.
-/
namespace RuleFile

/-! ## Output

What is written and what is reported is one list, in its order, so that whatever is written to can refuse a text in the
middle of it, and nothing that comes later is reported then. -/

def Rule.texts (rule : Rule) : List String :=
  rule.target.value :: ":" :: rule.prerequisites.flatMap (fun t => [" ", t.value]) ++
    "\n" :: rule.recipe.flatMap (fun line => ["\t", Term.joined line, "\n"])

def Statement.output : Statement → List Output
  | .rule r         => r.texts.map .text
  | .assignment _ _ => [.report .assignmentNotPrinted]

namespace Program

def output (program : Program) : List Output := program.statements.flatMap Statement.output

/-! ## Ways to print -/

def format (program : Program) : String := Output.joined program.output

def formatEvents (program : Program) : List Event := Output.events program.output

def render (program : Program) (sink : Sink) : Sink.Result := sink.writeAll program.output

/-- Writes a program into a buffer of `room` bytes: the bytes it then holds, and whether they are all. -/
def writeTo (program : Program) (room : Nat) : ByteArray × Bool :=
  let (buffer, complete) := (Buffer.ofRoom room).writeAll program.format.toUTF8
  (buffer.held, complete)

/-- What is wrong when the buffer is too small. -/
def bufferFull : String := "failed to write whole buffer"

end Program
end RuleFile
