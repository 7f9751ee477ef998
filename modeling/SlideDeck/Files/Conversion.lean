import SlideDeck.Files.FileTree
import SlideDeck.Pipeline

/-!
# Converting files

* `FileAccess` is what a conversion asks of a file system, in any monad; `FileTree.access` answers
  for a file system that is a value, on a machine that may refuse steps.
* `convertFile` reads the whole input, converts it, and writes the whole output.
-/

set_option autoImplicit false

namespace SlideDeck

/-- Access to files. -/
structure FileAccess (m : Type → Type) where
  /-- The content of a file. -/
  read : (path : Text) → m (Except SystemError Bytes)
  /-- Makes a directory and those above it that are missing. -/
  makeDirectories : (path : Text) → m (Except SystemError Unit)
  /-- Writes a file all or nothing, by way of a temporary file in a directory. -/
  replaceFile : (directory path : Text) → Bytes → m (Except SystemError Unit)

/-- Access to the files of a tree that is passed along. -/
def FileTree.access (refuse : Refusals := refuseNothing) : FileAccess (StateM FileTree) where
  read path := fun fs => (attempt refuse fs (.read path) (fs.read path), fs)
  makeDirectories path := fun fs => fs.makeDirectories path refuse
  replaceFile directory path content := fun fs => fs.replaceFile directory path content refuse

/-- The outcome of converting a file: the statistics or an error, and what was told. -/
structure FileConversion where
  result : Except ConversionError Stats
  events : List Event

/-- The error for an input that cannot be read. -/
def readError (path : Text) : SystemError → ConversionError
  | .notFound => .fileNotFound path
  | .permissionDenied => .permissionDenied path
  | e => .readFailed path e

/-- Writes a file, making the directories that are missing. -/
def writeOutput {m : Type → Type} [Monad m] (files : FileAccess m) (path : Text)
    (content : Bytes) : m (Except SystemError Unit) := do
  match ← files.makeDirectories (Path.directory path) with
  | .error e => return .error e
  | .ok () => files.replaceFile (Path.directory path) path content

/-- Converts one file into another. -/
def convertFile {m : Type → Type} [Monad m] (files : FileAccess m) (config : Config)
    (input output : Text) : m FileConversion := do
  match ← files.read input with
  | .error e => return ⟨.error (readError input e), [.started input output]⟩
  | .ok bytes =>
    let converted := Conversion.ofText config (Text.ofBytes bytes)
    let events :=
      [.started input output, .bytesRead bytes.length input] ++ converted.events
    match ← writeOutput files output (Text.toBytes converted.text) with
    | .error e => return ⟨.error (.writeFailed output e), events⟩
    | .ok () =>
      return ⟨.ok converted.stats,
        events ++ [.bytesWritten (Text.utf8Size converted.text) output,
          .finished converted.stats]⟩

end SlideDeck
