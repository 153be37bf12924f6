import OrderDesk.Console

/-!
The program at a terminal. It reads the environment and the settings file of the working
directory. It reaches no server, and what it keeps on its disk lasts as long as the run.
-/
open OrderDesk

/-- The names of the settings. -/
def settingNames : List Settings.Names :=
  [Settings.baseUrlNames, Settings.metaUrlNames, Settings.cacheUrlNames, Settings.cookieNames,
    Settings.progressNames]

/-- The variables of the environment that give settings. -/
def readEnvironment : IO (Text.Dict String) := do
  let names := settingNames.flatMap fun n => [n.first, n.next]
  let found ← names.mapM fun name => return (← IO.getEnv name).map ((name, ·))
  return Text.Dict.ofList (found.filterMap id)

/-- The disk with the settings file, if there is one. -/
def readDisk : IO Disk := do
  let working := ["desk"]
  let start : Disk := { items := [(working, .directory)], working := working }
  try
    let bytes ← IO.FS.readBinFile Settings.fileName
    return start.put (working ++ [Settings.fileName]) (.file bytes.toList)
  catch _ => return start

/-- What is told of a misuse. -/
def usage : String :=
  "Usage: order-controls [--meta-url <META_URL>] [--json] <show|set|refresh> [OPTIONS]\n"

def main (words : List String) : IO UInt32 := do
  let ended := Console.run (← readEnvironment) (← readDisk) ⟨none, [], []⟩ words
  IO.print ended.output.out
  IO.eprint (if ended.output.code = 2 then usage else ended.output.err)
  return ended.output.code.toUInt32
