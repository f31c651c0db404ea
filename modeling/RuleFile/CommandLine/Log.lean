import RuleFile.Event
/-!
# The log

Events as lines: the level, the message, and each field as `name=value`.  A threshold lets through the events of its
own level and of the more severe ones; without a threshold nothing is logged.
-/
namespace RuleFile

namespace Event

def Level.name : Level → String
  | error => "ERROR"
  | warn  => "WARN"
  | info  => "INFO"
  | debug => "DEBUG"
  | trace => "TRACE"

/-- The more severe, the lower. -/
def Level.rank : Level → Nat
  | error => 1
  | warn  => 2
  | info  => 3
  | debug => 4
  | trace => 5

def Field.toText : Field → String
  | text s  => s
  | count n => toString n

def logLine (event : Event) : String :=
  " ".intercalate (event.level.name :: event.message :: event.fields.map fun f => f.1 ++ "=" ++ f.2.toText)

end Event

namespace CommandLine

abbrev Threshold := Option Event.Level

def Threshold.admits (threshold : Threshold) (level : Event.Level) : Bool :=
  match threshold with
  | none       => false
  | some limit => level.rank ≤ limit.rank

/-- A threshold by its name; `off` lets nothing through. -/
def Threshold.ofName? : String → Option Threshold
  | "off"   => some none
  | "error" => some (some .error)
  | "warn"  => some (some .warn)
  | "info"  => some (some .info)
  | "debug" => some (some .debug)
  | "trace" => some (some .trace)
  | _       => none

/-- The threshold where none is asked for. -/
def Threshold.default (verbose : Bool) : Threshold :=
  some (if verbose then .debug else .warn)

def logLines (threshold : Threshold) (events : List Event) : List String :=
  (events.filter fun event => threshold.admits event.level).map Event.logLine

end CommandLine
end RuleFile
