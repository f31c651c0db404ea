/-!
# Directories

The tool reads one file, and opens one and writes into it.  `FileAccess` is all that it needs of files, whatever they
are kept in, and `FileFault` is what can go wrong.

`Directory` is a model of what they are kept in: the root directory with all that is below it.  `Directory.find` goes
where a path leads that is to be read, and `Directory.fileAt` where one leads that is to be opened and may have to be
created.  `Directory.access` puts them together to what the tool works on.
-/
namespace RuleFile.CommandLine

/-! ## Files

A file that is opened to write is created if it is missing, and emptied if it is not.  From then on it is known by a
handle, and it is written from its start. -/

inductive FileFault where
  | notFound
  | notDirectory
  | isDirectory
  | nameTooLong
  | other (text : String)
  deriving DecidableEq, Repr

def FileFault.message : FileFault → String
  | notFound     => "No such file or directory (os error 2)"
  | notDirectory => "Not a directory (os error 20)"
  | isDirectory  => "Is a directory (os error 21)"
  | nameTooLong  => "File name too long (os error 36)"
  | other text   => text

structure FileAccess (m : Type → Type) (handle : Type) where
  read   : String → m (Except FileFault ByteArray)
  create : String → m (Except FileFault handle)
  write  : handle → ByteArray → m (Except FileFault Unit)

/-! ## Entries

An entry is known by the names that lead to it from the root, and the root itself is the entry that no name leads to. -/

inductive Entry where
  | file (content : ByteArray)
  | directory

instance : DecidableEq Entry
  | .file a,    .file b    =>
    match ByteArray.instDecidableEq a b with
    | isTrue h  => isTrue (by rw [h])
    | isFalse h => isFalse (by simp [h])
  | .file _,    .directory => isFalse (by simp)
  | .directory, .file _    => isFalse (by simp)
  | .directory, .directory => isTrue rfl

abbrev Path := List String

structure Directory where
  entries : List (Path × Entry)
  deriving DecidableEq

namespace Directory

def entry? (d : Directory) : Path → Option Entry
  | []   => some .directory
  | path => d.entries.lookup path

def isDirectory (d : Directory) (place : Path) : Bool := d.entry? place = some .directory

def setEntry (path : Path) (entry : Entry) : List (Path × Entry) → List (Path × Entry)
  | []        => [(path, entry)]
  | e :: rest => if e.1 = path then (path, entry) :: rest else e :: setEntry path entry rest

/-- The directory with a file of this content. -/
def setFile (d : Directory) (path : Path) (content : ByteArray) : Directory :=
  ⟨setEntry path (.file content) d.entries⟩

end Directory

/-! ## Paths

What is written as a path is followed name by name, and each name is looked up in the directory that has been come to.
It is followed from the root if it starts with a slash, and else from the current directory.  No name between two
slashes and `.` stay where they are, and `..` goes back; at the root it stays there too.  Paths and names have a limit
of bytes. -/

def splitPath (cs : List Char) : List String :=
  match _h : cs.dropWhile (· != '/') with
  | []        => [String.ofList cs]
  | _ :: rest => String.ofList (cs.takeWhile (· != '/')) :: splitPath rest
termination_by cs.length
decreasing_by
  have h := (List.dropWhile_suffix (l := cs) (· != '/')).length_le
  rw [_h, List.length_cons] at h
  omega

def nameLimit : Nat := 255

def pathLimit : Nat := 4095

/-- What is wrong with a path, wherever it may lead. -/
def pathFault? (path : String) : Option FileFault :=
  if path = "" then some .notFound
  else if pathLimit < path.utf8ByteSize then some .nameTooLong
  else none

def origin (current : Path) (path : String) : Path :=
  if path.toList.head? = some '/' then [] else current

namespace Directory

def step (d : Directory) (place : Path) (name : String) : Except FileFault Path :=
  if !d.isDirectory place then .error .notDirectory
  else if name = "" ∨ name = "." then .ok place
  else if name = ".." then .ok place.dropLast
  else if nameLimit < name.utf8ByteSize then .error .nameTooLong
  else if (d.entry? (place ++ [name])).isSome then .ok (place ++ [name])
  else .error .notFound

def walk (d : Directory) : Path → List String → Except FileFault Path
  | place, []            => .ok place
  | place, name :: names =>
    match d.step place name with
    | .error fault => .error fault
    | .ok place'   => d.walk place' names

def find (d : Directory) (current : Path) (path : String) : Except FileFault Path :=
  match pathFault? path with
  | some fault => .error fault
  | none       => d.walk (origin current path) (splitPath path.toList)

/-- The file that is opened where a path is opened to write.  The names before the last lead to a directory, and the
last is not the name of one, nor written like one, with a slash behind it. -/
def fileAt (d : Directory) (current : Path) (path : String) : Except FileFault Path :=
  let names := splitPath path.toList
  let named := (names.reverse.dropWhile (· = "")).reverse
  match pathFault? path with
  | some fault => .error fault
  | none       =>
    match d.walk (origin current path) named.dropLast with
    | .error fault => .error fault
    | .ok parent   =>
      if !d.isDirectory parent then .error .notDirectory
      else match named.getLast? with
        | none      => .error .isDirectory
        | some name =>
          if name = "." ∨ name = ".." ∨ names.getLast? = some "" then .error .isDirectory
          else if nameLimit < name.utf8ByteSize then .error .nameTooLong
          else if d.entry? (parent ++ [name]) = some .directory then .error .isDirectory
          else .ok (parent ++ [name])

/-! ## Access

The handle of a file is where it is. -/

def read (d : Directory) (current : Path) (path : String) : Except FileFault ByteArray :=
  match d.find current path with
  | .error fault => .error fault
  | .ok place    =>
    match d.entry? place with
    | some (.file content) => .ok content
    | some .directory      => .error .isDirectory
    | none                 => .error .notFound

def create (d : Directory) (current : Path) (path : String) : Except FileFault (Path × Directory) :=
  match d.fileAt current path with
  | .error fault => .error fault
  | .ok place    => .ok (place, d.setFile place .empty)

/-- What stands where bytes are written is written over, and what stands further on stays. -/
def write (d : Directory) (place : Path) (bytes : ByteArray) : Except FileFault Directory :=
  match d.entry? place with
  | none             => .error .notFound
  | some .directory  => .error .isDirectory
  | some (.file old) => .ok (d.setFile place (bytes ++ old.extract bytes.size old.size))

def access (current : Path := []) : FileAccess (StateM Directory) Path where
  read path := fun d => (d.read current path, d)
  create path := fun d =>
    match d.create current path with
    | .error fault    => (.error fault, d)
    | .ok (place, d') => (.ok place, d')
  write place bytes := fun d =>
    match d.write place bytes with
    | .error fault => (.error fault, d)
    | .ok d'       => (.ok (), d')

end Directory
end RuleFile.CommandLine
