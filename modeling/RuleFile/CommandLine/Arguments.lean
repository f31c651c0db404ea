/-!
# Arguments

The arguments of the command line, read from left to right.  `--path`, `--out` and `--separator` take a value, behind
`=` or as the next argument; a value that is an argument of its own does not start with `-`, unless it is `-` alone.
Each option may be given once.  A request for the version or for help is answered as soon as it is met, so only what
stands in front of it can be wrong.
-/
namespace RuleFile.CommandLine

/-! ## Options -/

inductive OptionName where
  | path
  | out
  | separator
  | strict
  | noExpand
  | verbose
  | version
  | help
  deriving DecidableEq, Repr

namespace OptionName

def long : OptionName → String
  | path      => "path"
  | out       => "out"
  | separator => "separator"
  | strict    => "strict"
  | noExpand  => "no-expand"
  | verbose   => "verbose"
  | version   => "version"
  | help      => "help"

def all : List OptionName := [path, out, separator, strict, noExpand, verbose, version, help]

/-- Options are spelled out in full. -/
def ofLong? (text : String) : Option OptionName := all.find? fun name => name.long = text

def ofLetter? : Char → Option OptionName
  | 'v' => some verbose
  | 'V' => some version
  | 'h' => some help
  | _   => none

def takesValue : OptionName → Bool
  | path      => true
  | out       => true
  | separator => true
  | _         => false

/-- Files have names; a separator may be empty. -/
def acceptsEmpty : OptionName → Bool
  | path => false
  | out  => false
  | _    => true

end OptionName

/-! ## Requests -/

/-- What one run of the tool is to do. -/
structure Options where
  path      : String
  out?      : Option String
  separator : String
  strict    : Bool
  noExpand  : Bool
  verbose   : Bool
  deriving DecidableEq, Repr

inductive Request where
  | version
  | help
  | process (options : Options)
  deriving DecidableEq, Repr

inductive UsageError where
  | unexpected (argument : String)
  | repeated (name : OptionName)
  | missingValue (name : OptionName)
  | emptyValue (name : OptionName)
  | needlessValue (name : OptionName)
  | missingPath
  deriving DecidableEq, Repr

def UsageError.message : UsageError → String
  | unexpected argument => "unexpected argument '" ++ argument ++ "' found"
  | repeated name       => "the argument '--" ++ name.long ++ "' cannot be used multiple times"
  | missingValue name   => "a value is required for '--" ++ name.long ++ "' but none was supplied"
  | emptyValue name     => "the value for '--" ++ name.long ++ "' must not be empty"
  | needlessValue name  => "unexpected value for '--" ++ name.long ++ "' found; no more were expected"
  | missingPath         => "the required argument '--path <FILE>' was not provided"

/-! ## Reading -/

/-- The options met so far with their values; a flag has the empty one. -/
abbrev Given := List (OptionName × String)

namespace Given

def give (given : Given) (name : OptionName) (value : String) : Except UsageError Given :=
  if (given.lookup name).isSome then .error (.repeated name)
  else if value.isEmpty && !name.acceptsEmpty then .error (.emptyValue name)
  else .ok ((name, value) :: given)

def has (given : Given) (name : OptionName) : Bool := (given.lookup name).isSome

def request (given : Given) : Except UsageError Request :=
  match given.lookup .path with
  | none      => .error .missingPath
  | some path => .ok (.process {
      path,
      out?      := given.lookup .out,
      separator := (given.lookup .separator).getD "",
      strict    := given.has .strict,
      noExpand  := given.has .noExpand,
      verbose   := given.has .verbose })

end Given

/-- After an argument: go on with these options, or answer at once. -/
inductive Progress where
  | more (given : Given)
  | answer (request : Request)

def takeFlag (given : Given) : OptionName → Except UsageError Progress
  | .version => .ok (.answer .version)
  | .help    => .ok (.answer .help)
  | name     => (given.give name "").map .more

/-- Letters behind one `-`, as in `-vV`. -/
def takeLetters (given : Given) : List Char → Except UsageError Progress
  | []           => .ok (.more given)
  | c :: letters =>
    match OptionName.ofLetter? c with
    | none      => .error (.unexpected ("-" ++ c.toString))
    | some name =>
      match takeFlag given name with
      | .ok (.more given') => takeLetters given' letters
      | other              => other

/-- The shapes of an argument. -/
inductive Argument where
  | terminator
  | long (name : String) (value? : Option String)
  | letters (letters : List Char)
  | positional
  deriving DecidableEq, Repr

/-- Splits `name=value` at its first `=`. -/
def splitValue (cs : List Char) : String × Option String :=
  match cs.dropWhile (· != '=') with
  | []         => (String.ofList cs, none)
  | _ :: value => (String.ofList (cs.takeWhile (· != '=')), some (String.ofList value))

def Argument.ofString (s : String) : Argument :=
  match s.toList with
  | ['-', '-']       => .terminator
  | '-' :: '-' :: cs => .long (splitValue cs).1 (splitValue cs).2
  | ['-']            => .positional
  | '-' :: cs        => .letters cs
  | _                => .positional

/-- A separate argument is no value if it looks like an option. -/
def isValue (s : String) : Bool := Argument.ofString s = .positional

def readArguments (given : Given) : List String → Except UsageError Request
  | []          => given.request
  | arg :: rest =>
    match Argument.ofString arg with
    | .positional       => .error (.unexpected arg)
    | .terminator       =>
      match rest with
      | []     => given.request
      | s :: _ => .error (.unexpected s)
    | .letters letters  =>
      match takeLetters given letters with
      | .error e              => .error e
      | .ok (.answer request) => .ok request
      | .ok (.more given')    => readArguments given' rest
    | .long long value? =>
      match OptionName.ofLong? long with
      | none      => .error (.unexpected arg)
      | some name =>
        if name.takesValue then
          match value?, rest with
          | some value, rest     =>
            match given.give name value with
            | .error e   => .error e
            | .ok given' => readArguments given' rest
          | none, value :: rest' =>
            if isValue value then
              match given.give name value with
              | .error e   => .error e
              | .ok given' => readArguments given' rest'
            else .error (.missingValue name)
          | none, []             => .error (.missingValue name)
        else if value?.isSome then .error (.needlessValue name)
        else
          match takeFlag given name with
          | .error e              => .error e
          | .ok (.answer request) => .ok request
          | .ok (.more given')    => readArguments given' rest

def Request.ofArguments (args : List String) : Except UsageError Request := readArguments [] args

end RuleFile.CommandLine
