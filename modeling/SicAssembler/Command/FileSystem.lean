/-
This file defines the files that a command can see. Directories, files and
links stand at places, which are told by the names on the way from the root, and
a file may stand at several places. A path starts at the root or in the working
directory and is followed name by name; every place that is passed must be a
directory, and a link on the way is followed to what it names.

Files are read whole. A file that is written is emptied first, or made if
nothing stands at the place that its path leads to; when there is no room for
all of the bytes, it holds those for which there was.
-/

import SicAssembler.Text.Split

namespace SicAssembler

/-- The reasons for which a file cannot be read or written. -/
inductive FileFailure where
  | notFound
  | notDirectory
  | isDirectory
  | nameTooLong
  | tooManyLinks
  | denied
  /-- The file system is full. -/
  | noRoom
  /-- The bytes of the file are no text. -/
  | notText
deriving DecidableEq, Repr

/-- The wording of a reason. -/
def FileFailure.message : FileFailure → String
  | notFound => "No such file or directory (os error 2)"
  | notDirectory => "Not a directory (os error 20)"
  | isDirectory => "Is a directory (os error 21)"
  | nameTooLong => "File name too long (os error 36)"
  | tooManyLinks => "Too many levels of symbolic links (os error 40)"
  | denied => "Permission denied (os error 13)"
  | noRoom => "No space left on device (os error 28)"
  | notText => "stream did not contain valid UTF-8"

/-- A place in a file system: the names on the way to it from the root. -/
abbrev Place := List String

/-- What stands at a place. -/
inductive Node where
  /-- A directory, which the command may be allowed to pass, and to put files into. -/
  | directory (searchable writable : Bool)
  /-- The file of the given number. -/
  | file (number : Nat)
  /-- A link to the given path. -/
  | link (target : String)
deriving DecidableEq, Repr

/-- A file, and what the command may do with it. -/
structure StoredFile where
  content : ByteArray
  readable : Bool := true
  writable : Bool := true

/-- A file system as a command sees it. -/
structure FileSystem where
  /-- What stands where; the first node listed for a place counts. -/
  nodes : List (Place × Node)
  /-- The files by their numbers. -/
  files : List StoredFile
  workingDirectory : Place
  /-- The most bytes that all files can have together, if there is a limit. -/
  capacity? : Option Nat := none
  /-- Every number is that of a file. -/
  numbered : ∀ place number, (place, Node.file number) ∈ nodes → number < files.length

/-- What a path leads to. -/
inductive Target where
  | directory (place : Place)
  | file (number : Nat)
  /-- Nothing, in a directory that could have something at this place. -/
  | missing (place : Place)
deriving DecidableEq, Repr

namespace FileSystem

/-! ### Following a path -/

/-- What stands at a place, if anything does. -/
def nodeAt? (system : FileSystem) (place : Place) : Option Node := system.nodes.lookup place

/-- The place of the working directory, if there is a directory at it. -/
def presentDirectory? (system : FileSystem) : Option Place :=
  match system.nodeAt? system.workingDirectory with
  | some (.directory _ _) => some system.workingDirectory
  | _ => none

/-- The most bytes that a name can have. -/
def longestName : Nat := 255

/-- The most bytes that a path can have. -/
def longestPath : Nat := 4095

/-- The most links that are followed for a path. -/
def mostLinks : Nat := 40

/-- The names of a path. -/
def namesOf (path : String) : List String := (pieces (· = '/') path.toList).map String.ofList

/-- Where a path starts that is met at a place. -/
def startOf (place : Place) (path : String) : Place :=
  if path.toList.head? = some '/' then [] else place

/-- What one name leads to. -/
inductive Turn where
  | reach (target : Target)
  /-- A link to the given path. -/
  | link (path : String)
deriving DecidableEq, Repr

/-- Where a name leads from a directory: a period stays there, two periods rise, and any other
name is looked up. -/
def lookUp (system : FileSystem) (directory : Place) (name : String) : Except FileFailure Turn :=
  if name = "." then .ok (.reach (.directory directory))
  else if name = ".." then .ok (.reach (.directory directory.dropLast))
  else if longestName < name.utf8ByteSize then .error .nameTooLong
  else match system.nodeAt? (directory ++ [name]) with
    | none => .ok (.reach (.missing (directory ++ [name])))
    | some (.directory _ _) => .ok (.reach (.directory (directory ++ [name])))
    | some (.file number) => .ok (.reach (.file number))
    | some (.link target) => .ok (.link target)

/-- Follow one name from a place, which must be a directory. An empty name stays there. -/
def step (system : FileSystem) (place : Place) (name : String) : Except FileFailure Turn :=
  match system.nodeAt? place with
  | some (.directory searchable _) =>
    if name = "" then .ok (.reach (.directory place))
    else if searchable then system.lookUp place name
    else .error .denied
  | some _ => .error .notDirectory
  | none => .error .notFound

/-- Follow names from a place. What stands behind the last name may be missing. The path of a
link that is met, and the names behind it, are followed by `jump`. -/
def walk (system : FileSystem)
    (jump : Place → String → List String → Except FileFailure Target) :
    Place → List String → Except FileFailure Target
  | place, [] => .ok (.directory place)
  | place, name :: rest => do
    match ← system.step place name with
    | .reach (.directory next) => system.walk jump next rest
    | .reach (.file number) => if rest = [] then .ok (.file number) else .error .notDirectory
    | .reach (.missing next) => if rest = [] then .ok (.missing next) else .error .notFound
    | .link target => jump place target rest

/-- Follow names from a place, and at most the given number of links. -/
def follow (system : FileSystem) : Nat → Place → List String → Except FileFailure Target
  | 0 => system.walk fun _ _ _ => .error .tooManyLinks
  | links + 1 => system.walk fun place target rest =>
    system.follow links (startOf place target) (namesOf target ++ rest)

/-- What a path leads to. -/
def resolve (system : FileSystem) (path : String) : Except FileFailure Target :=
  if longestPath < path.utf8ByteSize then .error .nameTooLong
  else system.follow mostLinks (startOf system.workingDirectory path) (namesOf path)

/-! ### Reading -/

/-- The bytes of the file that a path leads to. -/
def readBytes (system : FileSystem) (path : String) : Except FileFailure ByteArray := do
  match ← system.resolve path with
  | .directory _ => .error .isDirectory
  | .missing _ => .error .notFound
  | .file number =>
    match system.files[number]? with
    | none => .error .notFound
    | some file => if file.readable then .ok file.content else .error .denied

/-- The text that bytes encode. -/
def decode (content : ByteArray) : Except FileFailure String :=
  match String.fromUTF8? content with
  | some text => .ok text
  | none => .error .notText

/-- The text of the file that a path leads to. -/
def readText (system : FileSystem) (path : String) : Except FileFailure String := do
  decode (← system.readBytes path)

/-! ### Writing -/

/-- The bytes for which there is room in a file when all others are left as they are. -/
def fitting (system : FileSystem) (number : Nat) (bytes : ByteArray) : ByteArray :=
  match system.capacity? with
  | none => bytes
  | some capacity =>
    let others :=
      (system.files.eraseIdx number).foldr (fun file total => file.content.size + total) 0
    bytes.extract 0 (capacity - others)

/-- Make bytes the content of a file, as far as there is room; and why not all of them fit, if
they do not. -/
def store (system : FileSystem) (number : Nat) (bytes : ByteArray) :
    FileSystem × Option FileFailure :=
  let content := system.fitting number bytes
  ({ system with
      files := system.files.modify number fun file => { file with content := content }
      numbered := fun place number member => by
        rw [List.length_modify]
        exact system.numbered place number member },
    if content.size < bytes.size then some .noRoom else none)

/-- Put an empty file at a place. -/
def create (system : FileSystem) (place : Place) : FileSystem :=
  { system with
    nodes := system.nodes ++ [(place, .file system.files.length)]
    files := system.files ++ [{ content := .empty }]
    numbered := fun other number member => by
      rw [List.length_append, List.length_singleton]
      rcases List.mem_append.mp member with known | new
      · exact Nat.lt_succ_of_lt (system.numbered other number known)
      · cases List.mem_singleton.mp new
        exact Nat.lt_succ_self _ }

/-- Whether the command may write what a path leads to. -/
def allows (system : FileSystem) : Target → Bool
  | .directory _ => false
  | .file number => system.files[number]?.any StoredFile.writable
  | .missing place =>
    match system.nodeAt? place.dropLast with
    | some (.directory _ writable) => writable
    | _ => false

/-- Write bytes as the whole content of the file that a path leads to; and why this failed, if it
did. -/
def writeBytes (system : FileSystem) (path : String) (bytes : ByteArray) :
    FileSystem × Option FileFailure :=
  match system.resolve path with
  | .error failure => (system, some failure)
  | .ok (.directory _) => (system, some .isDirectory)
  | .ok (.file number) =>
    if system.allows (.file number) then system.store number bytes else (system, some .denied)
  | .ok (.missing place) =>
    if system.allows (.missing place) then
      (system.create place).store system.files.length bytes
    else (system, some .denied)

/-! ### Making a file system -/

/-- The directories that a place is in, from the root on. -/
def directoriesAbove : Place → List Place
  | [] => []
  | name :: rest => [] :: (directoriesAbove rest).map (name :: ·)

/-- The place that a path names when links and periods are left aside. -/
def placeOf (workingDirectory : Place) (path : String) : Place :=
  startOf workingDirectory path ++ (namesOf path).filter fun name => name != "" && name != "."

/-- The file system of the given files, with the directories that they and the working directory
need, and of the given links. The command may do everything in it. -/
def ofFiles (workingDirectory : Place) (files : List (String × ByteArray))
    (links : List (String × String)) : FileSystem :=
  let place := placeOf workingDirectory
  let directories := workingDirectory :: directoriesAbove workingDirectory ++
    files.flatMap fun (path, _) => directoriesAbove (place path)
  let bare : FileSystem :=
    { nodes := directories.map (·, .directory true true) ++
        links.map fun (path, target) => (place path, .link target)
      files := []
      workingDirectory := workingDirectory
      numbered := by simp }
  files.foldl (fun system (path, content) => (system.writeBytes path content).1) bare

end FileSystem

end SicAssembler
