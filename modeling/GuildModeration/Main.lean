import GuildModeration.Startup

/-!
# The command line

The program is given the paths of the documents that it may read: its settings, and the policies of
guilds. It takes its named values from the environment, starts, tells on standard output what the
console shows, complains on standard error, and exits with the code of the start.
-/

namespace GuildModeration

open GuildModeration.Files

/-- The documents at some paths. -/
def readTree (paths : List String) : IO Tree :=
  paths.foldlM (fun t (path : String) ↦ do
    let bytes ← IO.FS.readBinFile path
    return t.put path (.file bytes.toList)) {}

/-- The named values that are set. -/
def readEnvironment : IO Settings.Environment :=
  Settings.variables.filterMapM fun name ↦ do
    return (← IO.getEnv name).map fun value ↦ (name, value)

end GuildModeration

open GuildModeration in
/-- Starts the program with the documents at the given paths. -/
def main (paths : List String) : IO UInt32 := do
  let env ← readEnvironment
  let now ← IO.monoMsNow
  let (startup, log) := Startup.run (← readTree paths) env now
  let output := Log.Output.ofEvents (.ofSetting (env.lookup "RUST_LOG")) log
  for line in output.console do
    IO.println line
  for complaint in startup.complaint? do
    IO.eprintln complaint
  return startup.exitCode.toUInt32
