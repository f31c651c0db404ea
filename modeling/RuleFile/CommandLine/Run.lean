import RuleFile.CommandLine.Arguments
import RuleFile.CommandLine.Directory
import RuleFile.CommandLine.Log
import RuleFile.Expansion
import RuleFile.Printing
import RuleFile.Reading
/-!
# Running the tool

A run reads the rule file, expands its rules unless that is not wanted, and prints the result.  The output file is
opened only when there is a text to write, so a bad rule file leaves it alone.
-/
namespace RuleFile.CommandLine

/-- What a run leaves behind besides its files. -/
structure Outcome where
  exitCode : Nat
  stdout   : String
  stderr   : String
  deriving DecidableEq, Repr

def unlines (lines : List String) : String := String.join (lines.map (· ++ "\n"))

def succeed (log : List String) (stdout : String) : Outcome := ⟨0, stdout, unlines log⟩

/-- A failure is told with its causes behind it. -/
def fail (log : List String) (causes : List String) : Outcome :=
  ⟨1, "", unlines (log ++ ["error: " ++ ": ".intercalate causes])⟩

def Options.settings (options : Options) : Settings := ⟨options.strict, options.separator⟩

/-- The program of a text as it is to be printed, and what was reported on the way. -/
def Options.program (options : Options) (text : String) : Except Error Program × List Event :=
  let build := parseText options.settings text
  match build.outcome with
  | .error e => (.error e, build.events)
  | .ok ()   =>
    let expansion : Expansion :=
      if options.noExpand then ⟨build.program, [], .ok ()⟩ else build.program.expand options.settings
    match expansion.outcome with
    | .error e => (.error (.expand e), build.events ++ expansion.events)
    | .ok ()   =>
      (.ok expansion.program,
        build.events ++ expansion.events ++ [.fileRead expansion.program.statements.length])

/-- An error of a rule file is told twice, as the error and as its cause. -/
def errorCauses (path : String) (e : Error) : List String := [path, e.message, e.message]

def invalidText : String := "stream did not contain valid UTF-8"

def Options.run {m : Type → Type} {handle : Type} [Monad m] (options : Options) (files : FileAccess m handle)
    (threshold? : Option Threshold) : m Outcome := do
  match ← files.read options.path with
  | .error fault => return fail [] ["failed to read " ++ options.path, fault.message]
  | .ok content  =>
    match String.fromUTF8? content with
    | none      => return fail [] ["failed to read " ++ options.path, invalidText]
    | some text =>
      let (result, events) := options.program text
      let log := logLines (threshold?.getD (Threshold.default options.verbose)) events
      match result with
      | .error e    => return fail log (errorCauses options.path e)
      | .ok program =>
        match options.out? with
        | none     => return succeed log program.format
        | some out =>
          match ← files.create out with
          | .error fault => return fail log ["failed to open " ++ out, fault.message]
          | .ok file     =>
            match ← files.write file program.format.toUTF8 with
            | .error fault => return fail log ["failed to write " ++ out, fault.message]
            | .ok ()       => return succeed log ""

/-! ## Arguments

The arguments of a run are options, or are answered at once: a request for the version or for help, and arguments that
are not accepted.  How they are read makes no difference to `runWith`; `run` reads them by `Request.ofArguments`. -/

def versionText : String := "makefile 0.1.0\n"

def helpText : String := unlines [
  "Parse a Makefile-style rule file and print the expanded rules",
  "",
  "Usage: makefile [OPTIONS] --path <FILE>",
  "",
  "Options:",
  "      --path <FILE>      Rule file to read",
  "      --out <FILE>       Write output here instead of stdout",
  "      --strict           Reject variable assignments instead of skipping them",
  "      --separator <SEP>  Separator used when expanding the all-prerequisites variable [default: ]",
  "      --no-expand        Print rules as parsed, without expanding variables",
  "  -v, --verbose          Log parser decisions to stderr",
  "  -h, --help             Print help",
  "  -V, --version          Print version"]

def parseArguments (args : List String) : Except Outcome Options :=
  match Request.ofArguments args with
  | .error e               => .error ⟨2, "", unlines ["error: " ++ e.message]⟩
  | .ok .version           => .error ⟨0, versionText, ""⟩
  | .ok .help              => .error ⟨0, helpText, ""⟩
  | .ok (.process options) => .ok options

section

variable {m : Type → Type} {handle : Type} [Monad m]

/-- Runs the tool with these arguments.  A threshold that is given wins over the one that the options ask for. -/
def runWith (parse : List String → Except Outcome Options) (files : FileAccess m handle)
    (threshold? : Option Threshold) (args : List String) : m Outcome :=
  match parse args with
  | .error answer => return answer
  | .ok options   => options.run files threshold?

def run (files : FileAccess m handle) (threshold? : Option Threshold) (args : List String) : m Outcome :=
  runWith parseArguments files threshold? args

end

end RuleFile.CommandLine
