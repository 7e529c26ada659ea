import PortfolioShell.Backend.Store
import PortfolioShell.Program.Arguments
import PortfolioShell.Program.Input
import PortfolioShell.Program.Storage
import PortfolioShell.Screen.Basic
import PortfolioShell.Screen.Programs
import PortfolioShell.Site.Builtin
import PortfolioShell.Site.Document

/-!
# The program

The program reads lines one at a time and prints what each one leads to. Every line goes to
exactly one reader: a full-screen program while one runs, else the prompt. The end of the input
ends whatever runs; a broken line stops the program where it is. The theme is stored when a line
has changed it, and is what the next run begins with. If it cannot be stored, the program goes on.
-/
namespace PortfolioShell

/-- A running program over a storage in state `φ`: the session and its screen, the lines typed into
the editor so far, last one first, and the storage. -/
structure Program (φ : Type) where
  session : Session Store
  screen : Screen
  draft : List String
  disk : φ

namespace Program

/-- A store with the accounts of the options, administrators first. -/
def seededStore (options : Options) (site : Site) (clock : Time.Clock) : Store :=
  let withAdmins := options.admins.foldl
    (fun store c => store.addAccount c.email c.password true) (Store.empty site.about clock)
  options.users.foldl (fun store c => store.addAccount c.email c.password false) withAdmins

section
variable {φ : Type}

/-- Prints what the session has added. -/
def render (p : Program φ) : String × Program φ :=
  let (printed, screen) := p.screen.render p.session
  (printed, { p with screen })

/-- Prints what the session has added, and the screen of a program that runs then. -/
def renderAll (p : Program φ) : String × Program φ :=
  let (printed, p) := p.render
  match p.session.mode with
  | .running program =>
    (printed ++ Programs.openingScreen p.session.theme.palette program, { p with draft := [] })
  | _ => (printed, p)

/-- Sets the clocks of session and store. -/
def setClock (p : Program φ) (now : Time.LocalTime) : Program φ :=
  { p with session := { p.session.setClock now with
    backend := { p.session.backend with clock := now.instant } } }

/-- Ends the game or the viewer. -/
def leave (p : Program φ) : String × Program φ :=
  renderAll { p with session := p.session.exitProgram }

/-- Leaves the editor without saving. -/
def cancel (p : Program φ) : String × Program φ :=
  renderAll { p with session := p.session.cancelEdit }

/-- A line for the viewer. -/
def readViewer (p : Program φ) (line : String) : String × Program φ :=
  let command := Programs.viewerCommand line
  if Programs.isQuit command then p.leave
  else (Programs.viewerReply p.session.theme.palette command, p)

/-- A line for the editor. -/
def readEditor (p : Program φ) (line : String) : String × Program φ :=
  match Programs.EditorLine.ofLine line with
  | .save => renderAll { p with session := p.session.saveEdit (Text.join "\n" p.draft.reverse) }
  | .cancel => p.cancel
  | .content line => ("", { p with draft := line :: p.draft })

/-- The end of the input ends a full-screen program, and cancels the editor. -/
def finish (p : Program φ) : String × Program φ :=
  match p.session.mode with
  | .running (.editor _) => p.cancel
  | .running _ => p.leave
  | _ => ("", p)

/-- Meets the end of an input. A broken line leaves everything as it is. -/
def close (p : Program φ) : Ending → String × Program φ
  | .complete => p.finish
  | .broken => ("", p)

variable [Storage φ]

/-- The theme to begin with: the one asked for, else the stored one. -/
def firstTheme (options : Options) (disk : φ) : Theme :=
  options.theme.getD ((Storage.loadTheme? disk).getD .fallback)

/-- A program that has printed its first screen. -/
def start (options : Options) (site : Site) (host : Host) (clock : Time.Clock) (disk : φ) :
    String × Program φ :=
  let session := (Session.start (seededStore options site clock) site host).setTheme
    (firstTheme options disk)
  render ⟨session, .blank, [], disk⟩

/-- Submits a line at the prompt. It does not matter whether a changed theme could be stored. -/
def readPrompt (p : Program φ) (line : String) : String × Program φ :=
  let session := (p.session.setInput line).submit
  let disk :=
    if session.theme = p.session.theme then p.disk
    else (Storage.saveTheme session.theme p.disk).2
  renderAll { p with session, disk }

/-- Hands a line to its reader and gives what is printed. Any line ends the game. -/
def read (p : Program φ) (line : String) : String × Program φ :=
  match p.session.mode with
  | .running .game => p.leave
  | .running (.viewer _ _) => p.readViewer line
  | .running (.editor _) => p.readEditor line
  | _ => p.readPrompt line

/-- Reads lines in order and gives everything that is printed, behind what was printed before. -/
def readOn (printed : String) (p : Program φ) : List String → String × Program φ
  | [] => (printed, p)
  | line :: rest =>
    let (more, p) := p.read line
    readOn (printed ++ more) p rest

/-- Reads lines in order and gives everything that is printed. -/
def readLines (p : Program φ) (lines : List String) : String × Program φ := readOn "" p lines

/-- What was printed before is not looked at. -/
theorem readOn_eq (printed : String) (p : Program φ) (lines : List String) :
    readOn printed p lines = (printed ++ (p.readLines lines).1, (p.readLines lines).2) := by
  induction lines generalizing printed p with
  | nil => simp [readLines, readOn]
  | cons line rest ih =>
    simp only [readLines, readOn, String.empty_append]
    rw [ih, ih (p.read line).1, String.append_assoc]

/-- Every line is read once, by the program that the lines before it have left. -/
theorem readLines_cons (p : Program φ) (line : String) (rest : List String) :
    p.readLines (line :: rest) =
      ((p.read line).1 ++ ((p.read line).2.readLines rest).1,
        ((p.read line).2.readLines rest).2) := by
  simp only [readLines, readOn, String.empty_append]
  exact readOn_eq ..

/-- Reads an input to its end and gives everything that is printed. -/
def readAll (p : Program φ) (input : Input) : String × Program φ :=
  let (printed, p) := p.readLines input.lines
  let (last, p) := p.close input.ending
  (printed ++ last, p)

end

/-- Why the program does not run. -/
inductive Refusal where
  | badArguments
  | badSite (error : Option SiteError)
deriving DecidableEq, Repr

/-- The exit code of a refusal. -/
def Refusal.exitCode : Refusal → Nat
  | badArguments => 2
  | badSite _ => 1

/-- The site to serve: the document in a file, or the built-in one. -/
def siteOf (options : Options) (file? : String → Option String) : Except Refusal Site :=
  match options.site with
  | none => .ok .builtin
  | some name =>
    match file? name with
    | none => .error (.badSite none)
    | some text =>
      match Site.ofText text with
      | .ok site => .ok site
      | .error e => .error (.badSite (some e))

/-- What is printed for the version. -/
def versionText : String := "foliosh 0.1.0\n"

/-- What is printed for help. -/
def helpText : String := Text.join "\n" [
  "A portfolio you explore from the command line",
  "",
  "Usage: foliosh [OPTIONS]",
  "",
  "Options:",
  "      --site <FILE>             Site document to serve instead of the embedded one",
  "      --theme <THEME>           Palette to start with (tokyonight, dracula, gruvbox)",
  "      --debug                   Log at debug level unless FOLIOSH_LOG says otherwise",
  "      --admin <EMAIL:PASSWORD>  Seed an admin account",
  "      --user <EMAIL:PASSWORD>   Seed a regular account",
  "  -h, --help                    Print help",
  "  -V, --version                 Print version",
  ""]

/-- How a run ended: its exit code, what it printed, and what is stored after it. -/
structure Outcome (φ : Type) where
  exitCode : Nat
  printed : String
  stored : φ
deriving DecidableEq, Repr

/-- What a run is begun with beside its storage: what the arguments ask for, if they are all right,
the files, the machine, and the clock of the store. -/
structure Launch where
  request : Option Request
  file? : String → Option String
  host : Host
  clock : Time.Clock

/-- A whole run over an input. -/
def serve {φ : Type} [Storage φ] (launch : Launch) (input : Input) (disk : φ) : Outcome φ :=
  match launch.request with
  | none => ⟨Refusal.badArguments.exitCode, "", disk⟩
  | some .version => ⟨0, versionText, disk⟩
  | some .help => ⟨0, helpText, disk⟩
  | some (.run options) =>
    match siteOf options launch.file? with
    | .error refusal => ⟨refusal.exitCode, "", disk⟩
    | .ok site =>
      let (first, p) := start options site launch.host launch.clock disk
      let (more, p) := p.readAll input
      ⟨input.ending.exitCode, first ++ more, p.disk⟩

/-- A run begun with arguments at a given time. -/
def Launch.ofArguments (args : List String) (file? : String → Option String)
    (now : Time.LocalTime) : Launch :=
  ⟨Request.ofArguments? args, file?, .at now, now.instant⟩

/-- A whole run over an input that is known beforehand, where the theme can always be stored. -/
def run (args : List String) (file? : String → Option String) (stored : Option String)
    (input : String) (now : Time.LocalTime) : Outcome (Option String) :=
  let outcome := serve (.ofArguments args file? now) (.ofText input) (⟨stored⟩ : ThemeFile)
  ⟨outcome.exitCode, outcome.printed, outcome.stored.text⟩

end Program

end PortfolioShell
