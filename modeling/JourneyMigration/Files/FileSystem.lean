import JourneyMigration.Files.Path

/-!
# File systems — directories and files as a value.

A location is the list of names on the way down from the root, so it has one spelling. A path is found by
walking: every component but the last must be a directory, a lone dot stays and two dots go up. The names of
a directory are kept in order when a file is added, so that it does not matter in which order files are.
-/

namespace JourneyMigration

/-- A name in a directory, as bytes. -/
abbrev Name := List UInt8

/-- A file or directory with its name. -/
inductive Entry where
  | file (name : Name) (content : List UInt8)
  | directory (name : Name) (entries : List Entry)
deriving Repr

namespace Entry

/-- The name of an entry. -/
def name : Entry → Name
  | file n _ | directory n _ => n

/-- The entries of a directory. -/
def entries : Entry → List Entry
  | file _ _ => []
  | directory _ es => es

/-- Whether an entry is a directory. -/
def isDirectory : Entry → Bool
  | file _ _ => false
  | directory _ _ => true

end Entry

/-- Why a file or directory cannot be used. -/
inductive FileFault where
  | notFound
  | notDirectory
  | isDirectory
  | notText
  | busy
  /-- A path or a name in it is too long. -/
  | tooLong
  /-- A path holds the byte zero, which ends names elsewhere. -/
  | endsEarly
deriving DecidableEq, Repr, Inhabited

/-- The fault in words of the operating system. -/
def FileFault.message : FileFault → String
  | notFound => "No such file or directory (os error 2)"
  | notDirectory => "Not a directory (os error 20)"
  | isDirectory => "Is a directory (os error 21)"
  | notText => "stream did not contain valid UTF-8"
  | busy => "Device or resource busy (os error 16)"
  | tooLong => "File name too long (os error 36)"
  | endsEarly => "file name contained an unexpected NUL byte"

/-- The way down from the root. -/
abbrev Location := List Name

/-- A root directory and the location that relative paths begin at. -/
structure FileSystem where
  entries : List Entry
  here : Location := []
deriving Repr

namespace FileSystem

/-! ## Looking up -/

/-- Whether one name comes before another or is the same, byte by byte. -/
def nameLe : Name → Name → Bool
  | [], _ => true
  | _ :: _, [] => false
  | a :: as, b :: bs => a < b || (a == b && nameLe as bs)

/-- The entry of a name among others. -/
def entryNamed? (name : Name) (es : List Entry) : Option Entry := es.find? (·.name == name)

/-- The entry at a location below entries. The location of a directory itself has none. -/
def entryAt? : List Entry → Location → Option Entry
  | _, [] => none
  | es, [name] => entryNamed? name es
  | es, name :: rest =>
    match entryNamed? name es with
    | some (.directory _ inner) => entryAt? inner rest
    | _ => none

/-- Whether a location is a directory. -/
def isDirectoryAt (es : List Entry) (loc : Location) : Bool :=
  loc.isEmpty || ((entryAt? es loc).map Entry.isDirectory).getD false

/-- Why a location is no directory, if it is none. -/
def directoryFault? (es : List Entry) (loc : Location) : Option FileFault :=
  if isDirectoryAt es loc then none
  else if (entryAt? es loc).isSome then some .notDirectory
  else some .notFound

/-- How many bytes a name may have. -/
def nameLimit : Nat := 255

/-- How many bytes a path may have. -/
def pathLimit : Nat := 4095

/-- Walk from a location along components. -/
def walk (es : List Entry) : Location → List Name → Except FileFault Location
  | loc, [] => .ok loc
  | loc, c :: cs =>
    match directoryFault? es loc with
    | some fault => .error fault
    | none =>
      if c == [] || c == [Path.dot] then walk es loc cs
      else if c == [Path.dot, Path.dot] then walk es loc.dropLast cs
      else if nameLimit < c.length then .error .tooLong
      else walk es (loc ++ [c]) cs

/-- Why a path cannot lead anywhere, whatever files there are. -/
def spellingFault? (p : Path) : Option FileFault :=
  if p.bytes.contains 0 then some .endsEarly
  else if p.bytes.isEmpty then some .notFound
  else if pathLimit < p.bytes.length then some .tooLong
  else none

/-- The location of a path, which need not exist itself. -/
def locate (fs : FileSystem) (p : Path) : Except FileFault Location :=
  match spellingFault? p with
  | some fault => .error fault
  | none =>
    let start := if p.bytes.head? == some Path.slash then [] else fs.here
    walk fs.entries start (Path.splitSlashes p.bytes)

/-- Whether a path leads to a file. -/
def isFile (fs : FileSystem) (p : Path) : Bool :=
  match fs.locate p with
  | .ok loc =>
    match entryAt? fs.entries loc with
    | some (.file _ _) => true
    | _ => false
  | .error _ => false

/-- The entries of the directory that a path leads to. -/
def directory (fs : FileSystem) (p : Path) : Except FileFault (List Entry) := do
  let loc ← fs.locate p
  match directoryFault? fs.entries loc with
  | some fault => throw fault
  | none =>
    if loc.isEmpty then return fs.entries else return ((entryAt? fs.entries loc).map Entry.entries).getD []

/-- The text of the file that a path leads to. -/
def readText (fs : FileSystem) (p : Path) : Except FileFault String := do
  let loc ← fs.locate p
  match entryAt? fs.entries loc with
  | some (.file _ content) =>
    match Path.textOf? content with
    | some text => return text
    | none => throw .notText
  | some (.directory _ _) => throw .isDirectory
  | none => if loc.isEmpty then throw .isDirectory else throw .notFound

/-! ## Changing -/

/-- Entries with one more, in front of the first that comes behind it by name; it takes the place of one of
its own name. -/
def insertEntry (e : Entry) : List Entry → List Entry
  | [] => [e]
  | d :: ds =>
    if d.name == e.name then e :: ds
    else if nameLe e.name d.name then e :: d :: ds
    else d :: insertEntry e ds

/-- Entries with a file at a location, whose directory is there. -/
def putFile (content : List UInt8) : List Entry → Location → List Entry
  | es, [] => es
  | es, [name] => insertEntry (.file name content) es
  | es, name :: rest =>
    es.map fun e =>
      match e with
      | .directory n inner => if n == name then .directory n (putFile content inner rest) else .directory n inner
      | other => other

/-- The file system with a file at a location. -/
def put (fs : FileSystem) (loc : Location) (content : List UInt8) : FileSystem :=
  { fs with entries := putFile content fs.entries loc }

/-- The path that a file is first written beside: its directory, or the place where one stands. -/
def directoryOf (p : Path) : Path :=
  if p.parent.bytes.isEmpty || !p.hasParent then ⟨[Path.dot]⟩ else p.parent

/-- Where a finished file is moved to by a path. A file cannot take the place of a directory, nor a path name
a file by what only a directory can be named by. -/
def destination (fs : FileSystem) (p : Path) : Except FileFault Location := do
  let last := ((Path.splitSlashes p.bytes).getLast?).getD []
  match spellingFault? p with
  | some fault => throw fault
  | none =>
    if last == [Path.dot] || last == [Path.dot, Path.dot] || !p.hasParent then throw .busy
    else if last.isEmpty then throw .notDirectory
    else
      let loc ← fs.locate p
      if isDirectoryAt fs.entries loc then throw .isDirectory else return loc

/-! ## Building -/

/-- Entries with a directory at a location, made with those above it if need be. -/
def putDirectory : List Entry → Location → List Entry
  | es, [] => es
  | es, name :: rest =>
    match entryNamed? name es with
    | some (.directory _ inner) => insertEntry (.directory name (putDirectory inner rest)) es
    | _ => insertEntry (.directory name (putDirectory [] rest)) es

/-- The file system with a directory at a location. -/
def makeDirectory (fs : FileSystem) (loc : Location) : FileSystem :=
  { fs with entries := putDirectory fs.entries loc }

/-- The file system with a file at a location, and the directories above it. -/
def makeFile (fs : FileSystem) (loc : Location) (content : List UInt8) : FileSystem :=
  (fs.makeDirectory loc.dropLast).put loc content

/-- A file system with nothing but the directory that relative paths begin at. -/
def atDirectory (here : Location) : FileSystem := ⟨putDirectory [] here, here⟩

/-! ## Comparing -/

mutual

/-- All files of an entry, by location. -/
def filesOf : Entry → List (Location × List UInt8)
  | .file name content => [([name], content)]
  | .directory name es => (filesAmong es).map fun (loc, content) => (name :: loc, content)

/-- All files of several entries, by location. -/
def filesAmong : List Entry → List (Location × List UInt8)
  | [] => []
  | e :: es => filesOf e ++ filesAmong es

end

/-- The files that are new or have other contents than before, by location. -/
def changes (before after : FileSystem) : List (Location × List UInt8) :=
  let old := filesAmong before.entries
  (filesAmong after.entries).filter fun f => !old.contains f

end FileSystem

end JourneyMigration
