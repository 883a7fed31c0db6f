import ClientGen.Path

namespace ClientGen

inductive FileFault where
  | missing
  | exists
  | notDirectory
  | isDirectory
  deriving DecidableEq, Repr

def FileFault.message : FileFault → String
  | .missing => "No such file or directory (os error 2)"
  | .exists => "File exists (os error 17)"
  | .notDirectory => "Not a directory (os error 20)"
  | .isDirectory => "Is a directory (os error 21)"

inductive DiskNode where
  | file (text : String)
  | directory
  deriving DecidableEq, Repr

/-- The files and directories of a program, by place. A place is the names that lead to it from the
working directory, or from the root, which is written as a slash. -/
structure Disk where
  nodes : List (List String × DiskNode) := []
  deriving DecidableEq, Repr

namespace Disk

/-- Whether a place is the working directory, one above it, or the root. -/
def isBase (place : List String) : Bool := place = ["/"] || place.all (· = "..")

def node? (d : Disk) (place : List String) : Option DiskNode :=
  if isBase place then some .directory else d.nodes.lookup place

def putNode (place : List String) (node : DiskNode) :
    List (List String × DiskNode) → List (List String × DiskNode)
  | [] => [(place, node)]
  | entry :: rest =>
    if entry.1 = place then (place, node) :: rest else entry :: putNode place node rest

def put (d : Disk) (place : List String) (node : DiskNode) : Disk := ⟨putNode place node d.nodes⟩

def above (place : List String) : List String :=
  if place = ["/"] then place
  else if isBase place then place ++ [".."]
  else place.dropLast

def below (place : List String) (name : String) : List String :=
  if Path.isTrivial name then place
  else if name = ".." then above place
  else place ++ [name]

def enter (d : Disk) (place : List String) : Except FileFault Unit :=
  match d.node? place with
  | some .directory => .ok ()
  | some (.file _) => .error .notDirectory
  | none => .error .missing

def walk (d : Disk) (place : List String) : List String → Except FileFault (List String)
  | [] => .ok place
  | name :: rest =>
    match d.enter place with
    | .error fault => .error fault
    | .ok () => walk d (below place name) rest

/-- Where a path starts, and the names to follow from there. -/
def start (path : String) : List String × List String :=
  match Path.names path with
  | "" :: name :: rest => (["/"], name :: rest)
  | names => ([], names)

def place (d : Disk) (path : String) : Except FileFault (List String) :=
  d.walk (start path).1 (start path).2

/-- Where a path starts, and the names to follow from there, without the empty ones that slashes at
the end make. -/
def startOfTarget (path : String) : List String × List String :=
  ((start path).1, ((start path).2.reverse.dropWhile String.isEmpty).reverse)

/-- The directory that the last name of a path is looked up in. -/
def directoryOf (d : Disk) (path : String) : Except FileFault (List String) :=
  match d.walk (startOfTarget path).1 (startOfTarget path).2.dropLast with
  | .error fault => .error fault
  | .ok place =>
    match d.enter place with
    | .error fault => .error fault
    | .ok () => .ok place

def lastName (path : String) : String := (startOfTarget path).2.getLastD ""

/-- Whether a path can only lead to a directory by its form. -/
def namesDirectory (path : String) : Bool :=
  path.toList.getLast? = some '/' || Path.isTrivial (lastName path) || lastName path = ".."

def read (d : Disk) (path : String) : Except FileFault String :=
  match d.place path with
  | .error fault => .error fault
  | .ok place =>
    match d.node? place with
    | some (.file text) => .ok text
    | some .directory => .error .isDirectory
    | none => .error .missing

def isDirectory (d : Disk) (path : String) : Bool :=
  match d.place path with
  | .ok place => d.node? place = some .directory
  | .error _ => false

/-- Set the text of the file at a path, which is made if it is missing. -/
def write (d : Disk) (path text : String) : Except FileFault Disk :=
  match d.directoryOf path with
  | .error fault => .error fault
  | .ok directory =>
    if namesDirectory path then .error .isDirectory
    else
      let place := directory ++ [lastName path]
      match d.node? place with
      | some .directory => .error .isDirectory
      | _ => .ok (d.put place (.file text))

def makeDirectory (d : Disk) (path : String) : Except FileFault Disk :=
  match d.directoryOf path with
  | .error fault => .error fault
  | .ok directory =>
    let name := lastName path
    if Path.isTrivial name || name = ".." then .error .exists
    else
      match d.node? (directory ++ [name]) with
      | some _ => .error .exists
      | none => .ok (d.put (directory ++ [name]) .directory)

def ensureDirectory (d : Disk) (path : String) : Except FileFault Disk :=
  match d.makeDirectory path with
  | .ok d => .ok d
  | .error fault => if d.isDirectory path then .ok d else .error fault

/-- What an operation comes to and the disk that it leaves, which is as it was if it fails. -/
def settle (d : Disk) : Except FileFault Disk → Except FileFault Unit × Disk
  | .ok d' => (.ok (), d')
  | .error fault => (.error fault, d)

/-- Make a directory and the missing ones above it, at most `fuel` of them. Those that are made
before one that cannot be made are left on the disk. -/
def ensureWithin (d : Disk) : Nat → String → Except FileFault Unit × Disk
  | 0, _ => (.error .missing, d)
  | fuel + 1, path =>
    if path.isEmpty then (.ok (), d)
    else
      match d.ensureDirectory path with
      | .error .missing =>
        match (Path.parent? path).map (ensureWithin d fuel) with
        | none => (.error .missing, d)
        | some (.error fault, d') => (.error fault, d')
        | some (.ok (), d') => d'.settle (d'.ensureDirectory path)
      | result => d.settle result

/-- Make a directory and the missing ones above it. A path has fewer names than its text and one
more has characters. -/
def ensureDirectories (d : Disk) (path : String) : Except FileFault Unit × Disk :=
  d.ensureWithin (path.length + 1) path

/-- Set the text of the file at a path, and make its directory if that is missing. -/
def save (d : Disk) (path text : String) : Except FileFault Disk :=
  match d.ensureDirectories ((Path.parent? path).getD "") with
  | (.error fault, _) => .error fault
  | (.ok (), d') => d'.write path text

def ofFiles (files : List (String × String)) : Disk :=
  files.foldl (fun d file => (d.save file.1 file.2).toOption.getD d) {}

def files (d : Disk) : List (String × String) :=
  d.nodes.filterMap fun entry =>
    match entry.2 with
    | .file text => some ("/".intercalate entry.1, text)
    | .directory => none

end Disk

end ClientGen
