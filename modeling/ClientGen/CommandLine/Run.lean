import ClientGen.Client
import ClientGen.CommandLine.Arguments
import ClientGen.CommandLine.Help
import ClientGen.CommandLine.LogFilter
import ClientGen.Config
import ClientGen.Disk
import ClientGen.SupportCode

namespace ClientGen

/-- What a program needs of files; a failure is given as its text. -/
structure Files (m : Type → Type) where
  read : String → m (Except String String)
  ensureDirectories : String → m (Except String Unit)
  write : String → String → m (Except String Unit)

structure Output where
  text : String := ""
  events : List Event := []

/-- A run that may end with the text of a failure. -/
abbrev Job (m : Type → Type) := ExceptT String (StateT Output m)

namespace Job

variable {m : Type → Type} [Monad m]

/-- Do something with files; a failure is named by what was to be done. -/
def attempt {α : Type} (purpose path : String) (action : m (Except String α)) : Job m α :=
  ExceptT.mk do
    let result ← action
    return result.mapError fun fault => purpose ++ " " ++ path ++ ": " ++ fault

def report (events : List Event) : Job m Unit :=
  modify fun output => { output with events := output.events ++ events }

def print (text : String) : Job m Unit :=
  modify fun output => { output with text := output.text ++ text }

def save (files : Files m) (path text : String) : Job m Unit := do
  match Path.parent? path with
  | none | some "" => pure ()
  | some directory =>
    attempt "Failed to create directory" directory (files.ensureDirectories directory)
  attempt "Failed to write" path (files.write path text)

def configOptions (files : Files m) (path : String) : Job m Options := do
  let text ← attempt "Failed to read config file" path (files.read path)
  match Config.options? text with
  | some options => return options
  | none => throw ("Failed to parse config file " ++ path)

def options (files : Files m) (a : Arguments) : Job m Options := do
  match a.configPath? with
  | some path => return a.options (← configOptions files path)
  | none => return a.options {}

def saveSupportCode (files : Files m) (directory : String) : Job m Unit := do
  SupportCode.files.forM fun file => save files (Path.child directory file.1) file.2
  report [.runtimeWritten directory]

def generate (files : Files m) (a : Arguments) : Job m Unit := do
  let options ← options files a
  report [.started a.documentPath options]
  let text ← attempt "Failed to read" a.documentPath (files.read a.documentPath)
  let (result, events) := ClientGen.generate text options
  report events
  match result with
  | .error failure =>
    throw ("Failed to generate client from " ++ a.documentPath ++ ": " ++ failure.message)
  | .ok text =>
    match a.outputPath? with
    | some path => save files path text
    | none => print text
  a.runtimeDirectory?.forM (saveSupportCode files)

end Job

/-- What a run leaves besides files. -/
structure RunResult where
  code : Nat
  output : String := ""
  failure : String := ""
  events : List Event := []

/-- Run the program. Arguments that are used wrongly give code 2, a failure code 1. -/
def runProgram {m : Type → Type} [Monad m] (files : Files m) (arguments : List String) :
    m RunResult := do
  match Arguments.read arguments with
  | none => return { code := 2 }
  | some .help => return { code := 0, output := helpText }
  | some .version => return { code := 0, output := versionText }
  | some (.generate a) =>
    let (result, output) ← ((Job.generate files a).run.run {} : m (Except String Unit × Output))
    match result with
    | .ok () => return { code := 0, output := output.text, events := output.events }
    | .error failure =>
      return { code := 1, output := output.text, failure, events := output.events }

/-- What an operation on a disk comes to; the disk is left as the operation leaves it. -/
def Disk.update (change : Disk → Except FileFault Unit × Disk) :
    StateM Disk (Except String Unit) :=
  modifyGet fun d =>
    let left := change d
    (left.1.mapError FileFault.message, left.2)

def Disk.asFiles : Files (StateM Disk) where
  read path := do return ((← get).read path).mapError FileFault.message
  ensureDirectories path := Disk.update (·.ensureDirectories path)
  write path text := Disk.update fun d => d.settle (d.write path text)

def Disk.run (d : Disk) (arguments : List String) : RunResult × Disk :=
  (runProgram Disk.asFiles arguments).run d

end ClientGen
