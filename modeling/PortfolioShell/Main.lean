import PortfolioShell.Program.Basic
import Std.Time.DateTime.Timestamp

/-!
# The command line

Reads arguments, files and standard input, hands them to the program, and prints what it gives
back. Diagnostics go to standard error.
-/
namespace PortfolioShell.CommandLine

/-- The present, in universal time. -/
def now : IO Time.LocalTime := do
  let stamp ← Std.Time.Timestamp.now
  let nanos := stamp.toNanosecondsSinceUnixEpoch.toInt
  return ⟨⟨nanos / 1000000000, (nanos % 1000000000).toNat⟩, 0⟩

/-- The directory for configuration. -/
def configDir? : IO (Option String) := do
  match ← IO.getEnv "XDG_CONFIG_HOME" with
  | some dir => if dir.startsWith "/" then return some dir else home
  | none => home
where
  home : IO (Option String) := do
    return (← IO.getEnv "HOME").map (Storage.entryPath · ".config")

/-- The text of a file, if it can be read. -/
def readFile? (name : String) : IO (Option String) :=
  try return some (← IO.FS.readFile name) catch _ => return none

/-- Stores the name of a theme. -/
def storeTheme (name : String) : IO Unit := do
  match ← configDir? with
  | some dir =>
    try
      IO.FS.createDirAll (Storage.themeDir dir)
      IO.FS.writeFile (Storage.themePath dir) name
    catch e => IO.eprintln s!"could not save theme: {e}"
  | none => IO.eprintln "could not save theme: no config directory"

/-- Prints and stores what has changed since the program was in another state. -/
def settle (printed : String) (before after : Program ThemeFile) : IO Unit := do
  let out ← IO.getStdout
  out.putStr printed
  out.flush
  if after.disk != before.disk then
    match after.disk.text with
    | some name => storeTheme name
    | none => return ()

/-- Reads standard input to its end and gives how it ended. -/
partial def loop (p : Program ThemeFile) : IO Ending := do
  let raw ← (← IO.getStdin).getLine
  let p := p.setClock (← now)
  let input := Input.ofText raw
  match input.lines with
  | [] =>
    let (printed, after) := p.close input.ending
    settle printed p after
    return input.ending
  | line :: _ =>
    let (printed, after) := p.read line
    settle printed p after
    loop after

/-- Runs the program with options. -/
def serve (options : Options) : IO UInt32 := do
  let text ← match options.site with
    | some name => readFile? name
    | none => pure none
  match Program.siteOf options fun _ => text with
  | .error refusal =>
    IO.eprintln "Error: the site document cannot be used"
    return refusal.exitCode.toUInt32
  | .ok site =>
    let stored ← match ← configDir? with
      | some dir => readFile? (Storage.themePath dir)
      | none => pure none
    let present ← now
    let (printed, p) := Program.start options site (.at present) present.instant
      (⟨stored⟩ : ThemeFile)
    settle printed p p
    return (← loop p).exitCode.toUInt32

end PortfolioShell.CommandLine

open PortfolioShell in
/-- Does what the arguments ask for. -/
def main (args : List String) : IO UInt32 := do
  match Request.ofArguments? args with
  | none =>
    IO.eprint Program.helpText
    return Program.Refusal.badArguments.exitCode.toUInt32
  | some .version => IO.print Program.versionText; return 0
  | some .help => IO.print Program.helpText; return 0
  | some (.run options) => CommandLine.serve options
