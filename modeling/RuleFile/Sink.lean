import RuleFile.Event
/-!
# Sinks

Output is a list of texts with reports between them.  A sink takes the texts in turn and has room for so many
characters; the text that does not fit is cut off, and nothing after it is looked at.
-/
namespace RuleFile

inductive Output where
  | text (s : String)
  | report (event : Event)
  deriving DecidableEq, Repr

namespace Output

def text? : Output → Option String
  | text s   => some s
  | report _ => none

def event? : Output → Option Event
  | text _       => none
  | report event => some event

/-- The texts of an output, one after the other. -/
def joined (output : List Output) : String := String.join (output.filterMap text?)

def events (output : List Output) : List Event := output.filterMap event?

end Output

structure Sink where
  held : String
  room : Nat
  deriving DecidableEq, Repr, Inhabited

/-- A sink after some output, the reports it came to, and whether it took everything. -/
structure Sink.Result where
  sink     : Sink
  events   : List Event
  complete : Bool
  deriving DecidableEq, Repr

namespace Sink

def ofRoom (room : Nat) : Sink := ⟨"", room⟩

/-- Takes as many characters of a text as fit, and says whether all did. -/
def write (sink : Sink) (s : String) : Sink × Bool :=
  if s.length ≤ sink.room then (⟨sink.held ++ s, sink.room - s.length⟩, true)
  else (⟨sink.held ++ String.ofList (s.toList.take sink.room), 0⟩, false)

def writeAll : Sink → List Output → Result
  | sink, []              => ⟨sink, [], true⟩
  | sink, .text s :: rest =>
    match sink.write s with
    | (sink', true)  => sink'.writeAll rest
    | (sink', false) => ⟨sink', [], false⟩
  | sink, .report event :: rest =>
    let result := sink.writeAll rest
    { result with events := event :: result.events }

end Sink
end RuleFile
