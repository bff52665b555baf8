import Std.Time.Format
import ViewAdapters.CommandLine.Reach

/-!
# The program

Reads the files that a command line can get to, runs it on them and writes back
what it has changed.
-/

namespace ViewAdapters.Program

open CommandLine (Environment Session Finish Request)

/-- The text of a place. -/
def textOf (place : Place) : String := Path.text ⟨Path.separator, place⟩

/-- What is at a place of the file system. What cannot be read counts as missing. -/
def entryAt (place : Place) : IO (Option Entry) := do
  try
    let target ← IO.FS.realPath (textOf place)
    if ← target.isDir then return some .directory
    return some (.file (← IO.FS.readBinFile target))
  catch _ => return none

/-- The names in a directory of the file system. -/
def namesAt (place : Place) : IO (List String) := do
  try
    let target ← IO.FS.realPath (textOf place)
    return (← target.readDir).toList.map fun e => e.fileName
  catch _ => return []

/-- Adds what is at a place. -/
def addPlace (files : Files) (place : Place) : IO Files := do
  if (files.get place).isSome then return files
  match ← entryAt place with
  | some e => return files.put place e
  | none => return files

/-- Adds what leads to a path and what is there. -/
def addPath (files : Files) (p : Path) : IO Files :=
  (CommandLine.placesTo files p).foldlM addPlace files

/-- Adds what is in a directory and, as far as the depth allows, in those inside of it. -/
def addContents (files : Files) : (depth : Nat) → Place → IO Files
  | 0, _ => return files
  | depth + 1, place => do
    if files.get place ≠ some .directory then return files
    (← namesAt place).foldlM (fun files name => do
      addContents (← addPlace files (place ++ [name])) depth (place ++ [name])) files

/-- Adds what leads to a path, what is there and all that it contains. -/
def addDirectory (files : Files) (p : Path) : IO Files := do
  let place := (CommandLine.placesTo files p).getLast?.getD []
  addContents (← addPath files p) Files.maxPathBytes place

/-- Makes the file system agree with the files after a session. -/
def apply (before after : Files) : IO Unit := do
  for (place, e) in before.tree.entries do
    if e ≠ .directory && (after.get place).isNone then IO.FS.removeFile (textOf place)
  for (place, e) in after.tree.entries do
    if before.get place ≠ some e then
      match e with
      | .directory => IO.FS.createDirAll (textOf place)
      | .file content => IO.FS.writeBinFile (textOf place) content

/-- The present second. -/
def present : IO Calendar.UtcSecond := do
  let now ← Std.Time.Timestamp.now
  return (Calendar.UtcSecond.ofSinceEpoch? now.toSecondsSinceUnixEpoch.val).getD
    ⟨0, by decide, by decide⟩

/-- The local time that the lines of a log file start with. -/
def logTime : IO String := do
  let now ← Std.Time.PlainDateTime.now
  let time := now.time
  let date : Calendar.Date → String := Calendar.Date.text
  let day := (Calendar.Date.check now.date.year.toInt.toNat now.date.month.val.toNat
    now.date.day.val.toNat).toOption.elim "" date
  let clock := ":".intercalate [Calendar.padded 2 time.hour.val.toNat,
    Calendar.padded 2 time.minute.val.toNat, Calendar.padded 2 time.second.val.toNat]
  return day ++ " " ++ clock ++ "," ++ Calendar.padded 3 (time.nanosecond.val.toNat / 1000000)

/-- A session in the present file system, of which no file is read yet. -/
def openSession : IO Session := do
  let directory := Path.ofString (toString (← IO.currentDir))
  let home := Path.ofString ((← IO.getEnv "HOME").getD Path.separator)
  return {
    files := .empty directory.parts, home, epoch := ← IO.getEnv "SOURCE_DATE_EPOCH"
    present := ← present, logTime := ← logTime }

/-- The session with the files that a command line can get to. -/
def readSession (s : Session) (arguments : List String) : IO Session := do
  match Request.parse arguments with
  | .error _ => return s
  | .ok request =>
    let sources ← (request.sources s.files s.home).foldlM addPath s.files
    let read := { s with files := sources }
    let targets := request.targets Environment.standard read
    return { read with files := ← targets.foldlM addDirectory sources }

/-- Says what a session says, and the status that it ends with. -/
def conclude (done : Finish Yaml.ScalarFault) : IO UInt32 := do
  let out ← IO.getStdout
  let err ← IO.getStderr
  out.putStr done.exit.output
  err.putStr done.exit.errors
  match done.exit.ending with
  | .exited status => return status.toUInt32
  | .escaped failure =>
    err.putStrLn failure.message
    return 1

/-- Runs a command line on the present file system. -/
def runHere (arguments : List String) : IO UInt32 := do
  let session ← readSession (← openSession) arguments
  let done := CommandLine.run Environment.standard session arguments
  apply session.files done.files
  conclude done

end ViewAdapters.Program

def main (arguments : List String) : IO UInt32 := ViewAdapters.Program.runHere arguments
