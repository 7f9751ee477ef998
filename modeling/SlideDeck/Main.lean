import SlideDeck.CommandLine.Run

/-!
# The program

Access to the files of the machine, and the command as a program.
-/

set_option autoImplicit false

namespace SlideDeck

/-- The error that the machine reports. -/
def SystemError.ofIO : IO.Error → SystemError
  | .noFileOrDirectory _ _ _ => notFound
  | .permissionDenied _ _ _ => permissionDenied
  | .resourceBusy _ _ => busy
  | .alreadyExists _ _ _ => alreadyExists
  | .inappropriateType _ code details =>
    if code = 20 then notDirectory
    else if code = 21 then isDirectory
    else other details.toList
  | e => other (toString e).toList

/-- Carries out an action and catches what the machine reports. -/
def catchSystemError {α : Type} (action : IO α) : IO (Except SystemError α) := do
  try
    return .ok (← action)
  catch e =>
    return .error (SystemError.ofIO e)

/-- Makes the first directory of a list of ancestors and those of the others that are missing. -/
def makeOnDisk : List Text → IO Unit
  | [] => return
  | p :: above => do
    let path := String.ofList p
    match ← catchSystemError (IO.FS.createDir path) with
    | .ok () => return
    | .error .notFound =>
      makeOnDisk above
      IO.FS.createDirAll path
    | .error _ =>
      try
        IO.FS.createDirAll path
      catch _ =>
        IO.FS.createDir path

/-- Writes a file next to its place and moves it there. -/
def replaceOnDisk (directory path : String) (content : ByteArray) : IO Unit := do
  let number ← IO.rand 0 999999999
  let temporary := directory ++ "/.tmp" ++ toString number
  let handle ← IO.FS.Handle.mk temporary .writeNew
  try
    handle.write content
    handle.flush
    IO.FS.rename temporary path
  catch e =>
    IO.FS.removeFile temporary
    throw e

/-- Access to the files of the machine. -/
def diskAccess : FileAccess IO where
  read path := catchSystemError do
    return (← IO.FS.readBinFile (String.ofList path)).toList
  makeDirectories path :=
    catchSystemError (makeOnDisk (Path.toMake path))
  replaceFile directory path content := catchSystemError
    (replaceOnDisk (String.ofList directory) (String.ofList path) ⟨content.toArray⟩)

end SlideDeck

open SlideDeck in
/-- Carries out what the arguments ask for and prints the reply. -/
def main (arguments : List String) : IO UInt32 := do
  let reply ← (Request.ofArguments (arguments.map String.toList)).run diskAccess
  (← IO.getStdout).putStr (String.ofList reply.output)
  (← IO.getStderr).putStr (String.ofList reply.errors)
  return reply.status.toUInt32
