import RuleFile.CommandLine.Run
/-!
# The program

The command line on real files.  The variable `RUST_LOG` names the threshold of the log.
-/
namespace RuleFile.CommandLine

/-- The number of a fault of the system, which some calls report as its negative. -/
def faultNumber (code : UInt32) : UInt32 := min code (0 - code)

/-- What a fault of the system means.  The kinds of fault are wide, and their numbers tell those apart that matter. -/
def FileFault.ofError (e : IO.Error) : FileFault :=
  match e with
  | .noFileOrDirectory ..    => .notFound
  | .permissionDenied ..     => .other "Permission denied (os error 13)"
  | .inappropriateType _ n _ =>
    match faultNumber n with
    | 20 => .notDirectory
    | 21 => .isDirectory
    | _  => .other (toString e)
  | .invalidArgument _ n _   => if faultNumber n = 36 then .nameTooLong else .other (toString e)
  | _                        => .other (toString e)

/-- Runs an action on files; an attempt that fails gives its fault. -/
def attempt {α : Type} (action : IO α) : IO (Except FileFault α) := do
  match ← action.toBaseIO with
  | .ok a    => return .ok a
  | .error e => return .error (.ofError e)

def realFiles : FileAccess IO IO.FS.Handle where
  read path := attempt (IO.FS.readBinFile path)
  create path := attempt (IO.FS.Handle.mk path .write)
  write file bytes := attempt do
    file.write bytes
    file.flush

/-- Runs the tool on real files and returns its exit code. -/
def execute (args : List String) : IO UInt32 := do
  let name? ← IO.getEnv "RUST_LOG"
  let outcome ← run realFiles (name?.bind Threshold.ofName?) args
  IO.eprint outcome.stderr
  IO.print outcome.stdout
  return outcome.exitCode.toUInt32

end RuleFile.CommandLine

def main (args : List String) : IO UInt32 := RuleFile.CommandLine.execute args
