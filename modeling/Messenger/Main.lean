/-
The command line program: reads the directory, runs the command, writes the directory, prints.
-/
import Std.Time.DateTime.Timestamp
import Messenger.Cli.Session
import Messenger.Store.File
import Messenger.Ulid

open Messenger Messenger.Cli

def storeFile : String := "courier.json"

/-- The content of a file, if it is there. -/
def readIfPresent (path : String) : IO (Option String) := do
  try
    return some (← IO.FS.readFile path)
  catch
    | .noFileOrDirectory _ _ _ => return none
    | error => throw error

/-- A number of so many random octets. -/
def randomNumber (octets : USize) : IO Nat := do
  return (← IO.getRandomBytes octets).toList.foldl (fun n b => n * 256 + b.toNat) 0

/-- The surroundings of a run, here and now. -/
def surroundings (path : String) : IO Surroundings := do
  let now := (← Std.Time.Timestamp.now).toMillisecondsSinceUnixEpoch.toInt
  let chance ← randomNumber 10
  return { path, now, serverId := fun n => Ulid.encode ((now.toNat <<< 80) + chance + n) }

def save (path : String) (before after : Directory) : IO Unit := do
  IO.FS.createDirAll path
  if let some config := after.config then
    if before.config ≠ some config then IO.FS.writeFile (join path configFile) config
  IO.FS.writeFile (join path storeFile) after.store.fileText

def runOn (path : String) (invocation : Invocation) : IO UInt32 := do
  let config ← readIfPresent (join path configFile)
  let some store := Store.ofFile? (← readIfPresent (join path storeFile))
    | IO.eprintln ("Error: Storage error: " ++ join path storeFile); return 1
  let directory : Directory := { config, store }
  let report := runCommand (← surroundings path) invocation.json invocation.command directory
  match report.result with
  | .ok text =>
    save path directory report.directory
    IO.print text
    return 0
  | .error problem =>
    save path directory report.directory
    IO.eprintln ("Error: " ++ problem.message)
    return 1

def main (words : List String) : IO UInt32 := do
  match Invocation.ofWords words with
  | .error .misuse =>
    IO.eprint programGrammar.usage
    return 2
  | .error (.help command) =>
    IO.print command.usage
    return 0
  | .error .version =>
    IO.print versionText
    return 0
  | .ok invocation =>
    let home := (← IO.getEnv "HOME").getD "."
    runOn (invocation.dataDir.getD (defaultDirectory home)) invocation
