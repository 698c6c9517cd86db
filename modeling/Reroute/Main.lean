import Reroute.Command.Program
import Reroute.Command.Watch
import Reroute.Storage.Archive
import Std.Time

/-!
# The command line

Reads the configuration and the database from the files of the user, runs a command, and writes
the database back.
-/

namespace Reroute.Shell

/-- A folder of the user: the one that the environment names, or else one in the home folder. -/
def userFolder (setting belowHome : String) : IO String := do
  match ← IO.getEnv setting, ← IO.getEnv "HOME" with
  | some folder, home =>
    if folder.startsWith "/" then return folder
    else return home.elim "." fun home => home ++ belowHome
  | none, some home => return home ++ belowHome
  | none, none => return "."

/-- What is found in the place of a file. -/
def found (path : String) : IO Config.Found := do
  try return .file (← IO.FS.readBinFile path)
  catch
    | .noFileOrDirectory .. => return .missing
    | _ => return .folder

/-- The configuration; one that cannot be read is passed over. -/
def config : IO Config := do
  let folder ← userFolder "XDG_CONFIG_HOME" "/.config"
  match Config.load (← found (folder ++ "/detour/config.toml")) with
  | .ok c => return c
  | .error _ => return .standard

/-- The database at a path; a missing one is empty. -/
def readDatabase (path : String) : IO (Except StorageError Database) := do
  if Files.isTransient path then return .ok .empty
  match ← found path with
  | .missing => return .ok .empty
  | .folder => return .error (.cannotOpen path)
  | .file bytes =>
    match Database.ofBytes? bytes with
    | some d => return .ok d
    | none => return .error .notADatabase

def writeDatabase (path : String) (d : Database) : IO Unit := do
  unless Files.isTransient path do IO.FS.writeFile path d.encode.print

/-- Makes the folder that a database needs. -/
def makeParent (path : String) : IO (Except Failure Unit) := do
  match Files.parent? path with
  | none | some "" => return .ok ()
  | some parent =>
    try
      IO.FS.createDirAll parent
      return .ok ()
    catch e => return .error (.noFolder parent (toString e))

/-- Opens the database at a path. -/
def openSession (path : String) : IO (Except Failure Session) := do
  match ← makeParent path with
  | .error f => return .error f
  | .ok _ =>
    match (← readDatabase path) >>= Session.open? with
    | .error e => return .error (.database e)
    | .ok s => return .ok s

/-- Ids that start at random. -/
def supply : IO Supply := do
  let bytes ← IO.getRandomBytes 16
  return .from (bytes.foldl (fun n b => 256 * n + b.toNat) 0)

/-- Prints a report; its code is what the program ends with. -/
def tell (r : Report) : IO UInt32 := do
  IO.print r.output
  IO.eprint r.errors
  return UInt32.ofNat r.code

/-- Prints a block of a watch under the time. -/
def showBlock (block : List String) : IO Unit := do
  let now ← Std.Time.PlainDateTime.now
  IO.println ("[" ++ now.format "uuuu-MM-dd HH:mm:ss" ++ "]")
  block.forM IO.println
  (← IO.getStdout).flush

/-- Polls and shows what has changed, until the program is stopped. -/
partial def follow (path : String) (interval : UInt32) (w : Watch) : IO Unit := do
  let w := match ← readDatabase path with
    | .ok d => ({ w with session := w.session.withDatabase d }).poll.drain
    | .error _ => w
  w.shown.forM showBlock
  IO.sleep interval
  follow path interval { w with shown := [] }

/-- Carries out a request. -/
def run (request : Command.Request) : IO UInt32 := do
  let c ← config
  let path := c.databasePathIn (← userFolder "XDG_DATA_HOME" "/.local/share")
  match ← openSession path with
  | .error f => tell (Outcome.failing f).report
  | .ok s =>
    match request with
    | .action a =>
      let (r, o) := Command.runOn c s (← supply) a
      writeDatabase path o.medium.database
      tell r.report
    | .watch =>
      let o := Opened.openOn (Command.linksOf c) s (← supply)
      writeDatabase path o.medium.database
      follow path c.pollInterval.toUInt32 (.start o.store o.medium)
      return 0

end Reroute.Shell

/-- The program. -/
def main (args : List String) : IO UInt32 := do
  match Reroute.Command.Request.ofArguments? args with
  | some request => Reroute.Shell.run request
  | none =>
    IO.eprintln "Usage: detour rules|rate|stats|watch ..."
    return 2
