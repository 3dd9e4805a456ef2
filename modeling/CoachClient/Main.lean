/-
CoachClient.Main — the command line.

Collects what the program finds when it starts, runs it, and shows and writes
what it leaves behind. There is no network here: nobody takes any request.

* `readBlock`, `homeIn`, `userIn`, `ancestors` — what the system tells, in the form of
  its files and paths.
* `runProgram` — the program on this machine.
-/
import CoachClient.Shell.Program

namespace CoachClient.Main

open CoachClient.Settings CoachClient.Shell CoachClient.Text

/-! ## 1. What the system tells -/

/-- One variable of a block, unless it is no text. -/
def readVariable (entry : List UInt8) : Option (String × String) := do
  let text ← Utf8.decode entry
  let (name, value) := cutAt '=' text.toList
  return (String.ofList name, String.ofList (← value))

/-- The variables of a block, each of which ends with a zero. -/
def readBlock (bytes : List UInt8) : Environment :=
  (bytes.splitOn 0).filterMap readVariable

/-- The home directory of a user in a table of accounts. -/
def homeIn (accounts user : String) : Option String :=
  (parts '\n' accounts.toList).findSome? fun line =>
    match parts ':' line with
    | _ :: _ :: number :: _ :: _ :: home :: _ =>
      if String.ofList number = user then some (String.ofList home) else none
    | _ => none

/-- The number of the user in the status of a process. -/
def userIn (status : String) : Option String :=
  (parts '\n' status.toList).findSome? fun line =>
    match parts '\t' line with
    | label :: number :: _ => if label = "Uid:".toList then some (String.ofList number) else none
    | _ => none

/-- The directory that contains one that is not the root. -/
def parent (directory : List Char) : List Char :=
  match (directory.reverse.dropWhile (· != '/')).drop 1 with
  | [] => ['/']
  | rest => rest.reverse

/-- A directory and those that contain it, from the inside out. -/
def ancestors : (fuel : Nat) → List Char → List String
  | 0, directory => [String.ofList directory]
  | fuel + 1, directory =>
    String.ofList directory ::
      (if directory = ['/'] then [] else ancestors fuel (parent directory))

/-! ## 2. What the program finds -/

/-- The text of a file, or nothing. -/
def readText (path : String) : IO String := do
  try return (Utf8.decode (← IO.FS.readBinFile path).toList).getD ""
  catch _ => return ""

/-- The environment of the process. -/
def processEnvironment : IO Environment := do
  try return readBlock (← IO.FS.readBinFile "/proc/self/environ").toList
  catch _ => return []

/-- The home directory of the account that the process belongs to. -/
def accountHome : IO (Option String) := do
  let accounts ← readText "/etc/passwd"
  return (userIn (← readText "/proc/self/status")).bind (homeIn accounts)

/-- What there is under a path. -/
def sighting (path : String) : IO Sighting := do
  let candidate := (← IO.currentDir) / path
  try
    if (← candidate.metadata).type == .file then
      return .file (← IO.FS.readBinFile candidate).toList
    else return .nothing
  catch
    | .noFileOrDirectory .. => return .nothing
    | _ => return .fault

/-- The places where the file with variables may be. -/
def variableFiles : IO (List Sighting) := do
  try
    let here := (← IO.currentDir).toString.toList
    (ancestors here.length here).mapM fun directory => sighting (below directory ".env")
  catch _ => return []

/-- The contents of a file that is there, and what may be done with it. What cannot be
read is there without contents. -/
def lookAt (path : String) : IO (Option (List UInt8) × Access) := do
  let candidate := (← IO.currentDir) / path
  try discard candidate.metadata catch _ => return (none, {})
  try return (some (← IO.FS.readBinFile candidate).toList, {})
  catch e => return (some [], { unreadable := some e.toString })

/-! ## 3. Running it -/

/-- Show a text where it belongs. -/
def showPrinted : Printed → IO Unit
  | .out text => do (← IO.getStdout).putStr text
  | .err text => do (← IO.getStderr).putStr text

/-- Write a file, its directories first, if that is possible. -/
def writeBytes (path : String) (contents : List UInt8) : IO Unit := do
  try
    IO.FS.createDirAll (String.ofList (parent path.toList))
    IO.FS.writeBinFile path ⟨contents.toArray⟩
  catch _ => return

/-- All that is left of a stream. -/
partial def readToEnd (stream : IO.FS.Stream) (sofar : List UInt8) : IO (List UInt8) := do
  let bytes ← stream.read 4096
  if bytes.isEmpty then return sofar else readToEnd stream (sofar ++ bytes.toList)

/-- Run the program. -/
def runProgram (arguments : List String) : IO UInt32 := do
  let machine : Machine := { home := ← accountHome }
  let start : Start := {
    arguments
    environment := ← processEnvironment
    variableFiles := ← variableFiles
    machine
    files := []
    input := ← readToEnd (← IO.getStdin) []
    surroundings := { service := fun _ _ => .unreachable, now := 0 } }
  let start ← match configPath machine start.fullEnvironment with
    | none => pure start
    | some path => do
      let (contents, access) ← lookAt path
      pure { start with
        machine := { machine with access := fun p => if p = path then access else {} }
        files := (contents.map fun bytes => (path, bytes)).toList }
  let finish := run start
  finish.printed.forM showPrinted
  if finish.files != start.files then
    finish.files.forM fun (path, contents) => writeBytes path contents
  return finish.code

end CoachClient.Main

/-- The program. -/
def main (arguments : List String) : IO UInt32 := CoachClient.Main.runProgram arguments
