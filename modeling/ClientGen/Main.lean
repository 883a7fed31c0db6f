import ClientGen.CommandLine.Run

namespace ClientGen

def systemFault (e : IO.Error) : String :=
  match e with
  | .noFileOrDirectory .. => FileFault.missing.message
  | .alreadyExists .. => FileFault.exists.message
  | .inappropriateType _ code details =>
    if code = 20 then FileFault.notDirectory.message
    else if code = 21 then FileFault.isDirectory.message
    else details
  | e => toString e

/-- Run an action and give a failure as its text. -/
def attemptIO {α : Type} (action : IO α) : IO (Except String α) := do
  try
    return .ok (← action)
  catch e =>
    return .error (systemFault e)

def systemFiles : Files IO where
  read path := attemptIO (IO.FS.readFile path)
  ensureDirectories path := attemptIO (IO.FS.createDirAll path)
  write path text := attemptIO (IO.FS.writeFile path text)

end ClientGen

open ClientGen in
/-- Run the program and show its events as the environment asks for. -/
def main (arguments : List String) : IO UInt32 := do
  let filter := ((← IO.getEnv "FETCHGEN_LOG").map LogFilter.ofText).getD LogFilter.default
  let result ← runProgram systemFiles arguments
  for event in result.events do
    if filter.shows event then IO.eprintln event.text
  IO.print result.output
  if result.code = 2 then IO.eprintln "error: wrong usage; try '--help'"
  if !result.failure.isEmpty then IO.eprintln result.failure
  return result.code.toUInt32
