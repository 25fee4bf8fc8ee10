import RibTree.Console.CommandLine

/-!
# The program

The command line on the machine on which the program is started.
-/

namespace RibTree

set_option autoImplicit false

/-- An error as its text and number in the system. -/
def systemReason : IO.Error → String
  | .alreadyExists _ code text | .interrupted _ code text | .noFileOrDirectory _ code text
  | .invalidArgument _ code text | .permissionDenied _ code text
  | .resourceExhausted _ code text | .inappropriateType _ code text | .noSuchThing _ code text
  | .otherError code text | .resourceBusy code text | .resourceVanished code text
  | .unsupportedOperation code text | .hardwareFault code text
  | .unsatisfiedConstraints code text | .illegalOperation code text | .protocolError code text
  | .timeExpired code text => s!"{text} (os error {code})"
  | .unexpectedEof => "unexpected end of file"
  | .userError text => text

def isAbsent : IO.Error → Bool
  | .noFileOrDirectory .. => true
  | _ => false

namespace LocalMachine

/-- A call, and the reason if it fails. -/
def call {α : Type} (action : IO α) : IO (Except IO.Error α) :=
  try return .ok (← action) catch e => return .error e

def stored {α : Type} (path : Path) (operation : String) (action : IO α) :
    IO (Except StorageFailure α) := do
  return (← call action).mapError fun e =>
    ⟨path, "Failed to " ++ operation ++ ": " ++ systemReason e⟩

def readText (path : Path) : IO String := do
  match String.fromUTF8? (← IO.FS.readBinFile ⟨path.text⟩) with
  | some text => return text
  | none => throw (.userError DiskFailure.notText.text)

def isFolder (path : Path) : IO Bool := do
  return (← (← IO.currentDir) / path.text |>.isDir)

def isPresent (path : Path) : IO Bool := do
  if path.text.isEmpty then return false
  return (← (← IO.currentDir) / path.text |>.pathExists)

def isFile (path : Path) : IO Bool := do
  return (← isPresent path) && !(← isFolder path)

def createFolders (path : Path) : IO Unit := do
  if !path.text.isEmpty then IO.FS.createDirAll ⟨path.text⟩

/-- The files under a folder, depth first in the order of names. -/
partial def files (folder : Path) : IO (List Path) := do
  let entries ← ((← IO.currentDir) / folder.text).readDir
  let sorted := entries.toList.mergeSort fun a b => decide (a.fileName ≤ b.fileName)
  let below ← sorted.mapM fun entry => do
    let path := folder.join ⟨entry.fileName⟩
    match (← entry.path.symlinkMetadata).type with
    | .dir => files path
    | .file => return [path]
    | _ => return []
  return below.flatten

def sources (root : Path) (extension : String) : IO (Except IndexFailure (List Path)) := do
  if !(← isFolder root) || root.text.isEmpty then return .ok []
  match ← call (files root) with
  | .ok paths => return .ok (paths.filter fun path => path.extension? == some extension)
  | .error e => return .error ⟨root, "directory walk error: " ++ systemReason e⟩

def template (source : TemplateSource) (key : TemplateKey) :
    IO (Except TemplateFailure String) := do
  match source with
  | .set templates => return templates.read key
  | .folder root =>
      let path := root.join key.path
      match ← call (readText path) with
      | .ok text => return .ok text
      | .error e =>
          if isAbsent e then return .error (.missing key)
          return .error (.unreadable ⟨path, "Failed to read template: " ++ systemReason e⟩)

def host (templates : TemplateSource) : Host IO where
  createFolders path := stored path "create directory" (createFolders path)
  write path content := stored path "write file" (IO.FS.writeFile ⟨path.text⟩ content)
  read path := stored path "read file" (readText path)
  isPresent := isPresent
  isFolder := isFolder
  sources := sources
  template := template templates

def print (line : String) : IO (Except String Unit) := do
  let output ← IO.getStdout
  return (← call (output.putStrLn line *> output.flush)).mapError systemReason

def log (line : LogLine) : IO Unit := do
  (← IO.getStderr).putStrLn (line.level.text ++ " " ++ line.text)

def machine : Machine IO where
  host := host
  isFile := isFile
  bytes path := return (← call (IO.FS.readBinFile ⟨path.text⟩)).mapError systemReason
  workingFolder := return ⟨(← IO.currentDir).toString⟩
  variableNamed name := IO.getEnv name
  print := print
  log := log

end LocalMachine

end RibTree

def main (words : List String) : IO UInt32 := do
  let output ← IO.getStdout
  let errors ← IO.getStderr
  let around : RibTree.Surroundings :=
    { outputIsTerminal := ← output.isTty, errorsAreTerminal := ← errors.isTty }
  let outcome ← RibTree.CommandLine.run RibTree.LocalMachine.machine around words
  errors.putStr outcome.errors
  return outcome.exitCode.toUInt32
