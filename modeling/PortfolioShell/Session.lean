import PortfolioShell.Completion
import PortfolioShell.History
import PortfolioShell.Line
import PortfolioShell.Ring
import PortfolioShell.Tutorial

/-!
# Sessions

A session is everything that changes while somebody types: the mode, the working directory, the
scrollback, the input and its history. Commands give back values; only the session acts on them.
In normal mode a line is a command. A password request, the tutorial and the full-screen programs
are modes of their own, each with one way in and its own ways back to normal mode.
-/
namespace PortfolioShell

/-- A full-screen program. -/
inductive Subprogram where
  | game
  | viewer (filename content : String)
  | editor (post : Post)
deriving DecidableEq, Repr

/-- What the next submitted line means. While a full-screen program runs, lines mean nothing. -/
inductive Mode where
  | normal
  | password (action : AuthAction)
  | tutorial (step : Nat)
  | running (program : Subprogram)
deriving DecidableEq, Repr

/-- A terminal session over a backend in state `σ`. -/
structure Session (σ : Type) where
  backend : σ
  setting : Setting
  mode : Mode
  cwd : String
  user : Option User
  theme : Theme
  lines : Ring Line
  nextId : Nat
  epoch : Nat
  input : String
  suggestions : List String
  history : History

namespace Session
variable {σ : Type}

/-- The number of lines that are kept. -/
def scrollbackCapacity : Nat := 1000

/-- Prints a line under the next number. -/
def print (s : Session σ) (role : LineRole) (data : LineData) : Session σ :=
  { s with lines := s.lines.insert ⟨s.nextId, role, data⟩, nextId := s.nextId + 1 }

/-- Prints text that a command gave back. -/
def printText (s : Session σ) (text : String) : Session σ := s.print .output (.text text)

/-- A session at the root that shows the banner. -/
def start (backend : σ) (site : Site) (host : Host) : Session σ :=
  print {
    backend, setting := ⟨site, .ofSite site, .builtin, host⟩, mode := .normal, cwd := Path.root,
    user := none, theme := .fallback, lines := .empty scrollbackCapacity, nextId := 0, epoch := 0,
    input := "", suggestions := [], history := .empty History.sessionCapacity }
    .system (.rich (Info.banner site))

/-- Keeps another number of lines, beginning with the newest there are. -/
def withScrollback (s : Session σ) (capacity : Nat) : Session σ :=
  { s with lines := s.lines.resize capacity }

/-- Chooses a theme without printing anything. -/
def setTheme (s : Session σ) (theme : Theme) : Session σ := { s with theme }

/-- Replaces the input and dismisses suggestions. -/
def setInput (s : Session σ) (input : String) : Session σ := { s with input, suggestions := [] }

/-- Registers a command. -/
def register (s : Session σ) (spec : CommandSpec) : Session σ :=
  { s with setting := { s.setting with registry := s.setting.registry.register spec } }

/-- Sets the clock. -/
def setClock (s : Session σ) (now : Time.LocalTime) : Session σ :=
  { s with setting := { s.setting with host := { s.setting.host with now } } }

/-- What a password is asked for with. -/
def passwordPrompt : String := "Password:"

/-- The prompt: user, host and directory, or the request for a password. -/
def prompt (s : Session σ) : String :=
  match s.mode with
  | .password _ => passwordPrompt
  | _ => s!"{nameOf s.user}@{hostName}:{Path.promptText s.cwd}$"

/-- Takes a step of the backend. -/
def ask {α : Type} (s : Session σ) (step : StateM σ α) : α × Session σ :=
  let (answer, backend) := step s.backend
  (answer, { s with backend })

/-- Carries out what a command asks of the session. -/
def follow (s : Session σ) : Directive → Session σ
  | .requestPassword action => { s with mode := .password action }
  | .setTheme theme => { s with theme }.printText s!"Theme set to {theme.name}"
  | .startTutorial =>
    { s with mode := .tutorial 0 }.print .output (.rich (Tutorial.instructions 0))
  | .startGame => { s with mode := .running .game }.printText "Starting Pac-Man..."
  | .openViewer filename content => { s with mode := .running (.viewer filename content) }
  | .openEditor post => { s with mode := .running (.editor post) }

/-- Acts on the output of a command. Clearing the screen begins a new epoch. -/
def accept (s : Session σ) : Output → Session σ
  | .text text => if text.isEmpty then s else s.printText text
  | .rich blocks => if blocks.isEmpty then s else s.print .output (.rich blocks)
  | .clear => { s with lines := s.lines.clear, epoch := s.epoch + 1 }
  | .directive directive => s.follow directive

/-- Changes to the directory that a command asked for. -/
def moveTo (s : Session σ) (target : Option String) : Session σ :=
  { s with cwd := target.getD s.cwd }

variable [Backend σ]

/-- Learns from the backend who is signed in. -/
def sync (s : Session σ) : Session σ :=
  let (user, s) := s.ask Backend.currentUser
  { s with user }

/-- Carries out a line as a command. -/
def runCommand (s : Session σ) (line : String) : Session σ :=
  let (outcome, s) := s.ask (dispatch line s.setting s.cwd)
  match outcome.output with
  | some output => (s.moveTo outcome.cwd).accept output
  | none => s.moveTo outcome.cwd

/-- What a command prints inside the tutorial, where the session does not act on output. -/
def shownInTutorial : Option Output → Rich
  | some (.text text) => if text.isEmpty then [] else [.text text]
  | some (.rich blocks) => blocks
  | _ => []

/-- The mode of a step, or normal mode after the last one. -/
def modeOfStep : Option Nat → Mode
  | some step => .tutorial step
  | none => .normal

/-- Carries out a command that a step of the tutorial accepted. -/
def runAccepted (s : Session σ) (inv : Invocation) (step : Nat) (next : Option Nat) : Session σ :=
  let (outcome, s) := s.ask (inv.execute s.setting s.cwd)
  let blocks := shownInTutorial outcome.output ++ Tutorial.acceptance step next
  { (s.moveTo outcome.cwd).print .output (.rich blocks) with mode := modeOfStep next }

/-- Takes a line as an answer to a step of the tutorial. -/
def runTutorial (s : Session σ) (step : Nat) (line : String) : Session σ :=
  match Invocation.ofLine? line with
  | none => s
  | some inv =>
    match Tutorial.advance step inv s.cwd s.setting.tree with
    | .exit => { s with mode := .normal }.printText "Exited tutorial."
    | .rejected => s.printText (Tutorial.hint step)
    | .accepted next => s.runAccepted inv step next

/-- Shows a submitted line behind the prompt. -/
def echo (s : Session σ) (line : String) : Session σ :=
  s.print .input (.prompt s.prompt line)

/-- The mask of a password: a star for each character. -/
def mask (password : String) : String := String.ofList (List.replicate password.length '*')

/-- Takes a line as the password of a login or signup. It is shown masked and not remembered. -/
def submitPassword (s : Session σ) (action : AuthAction) (password : String) : Session σ :=
  let shown := s.print .input (.prompt passwordPrompt (mask password))
  let (message, s) :=
    { shown with mode := .normal, history := shown.history.reset }.ask
      (Account.finish action password)
  (s.printText message).sync

/-- Shows a line, remembers it, and hands it to whoever the mode says. A blank line is shown as a
bare prompt and does nothing. -/
def submitText (s : Session σ) (line : String) (run : Session σ → Session σ) : Session σ :=
  if Text.isBlankText line then
    let s := s.echo ""
    { s with history := s.history.reset }
  else
    let s := s.echo line
    (run { s with history := s.history.push line }).sync

/-- Submits a line as if it had been typed. -/
def submitLine (s : Session σ) (line : String) : Session σ :=
  let s := s.setInput ""
  match s.mode with
  | .running _ => s
  | .password action => s.submitPassword action line
  | .normal => s.submitText line (·.runCommand line)
  | .tutorial step => s.submitText line (·.runTutorial step line)

/-- Submits the input. -/
def submit (s : Session σ) : Session σ := s.submitLine s.input

/-- Completes the input, or lists candidates for it, where lines are commands. -/
def tab (s : Session σ) : Session σ :=
  match s.mode with
  | .normal | .tutorial _ =>
    let (completion, s) := s.ask (complete s.input s.cwd s.setting)
    if completion.isEmpty then s
    else { s with
      input := completion.input.getD s.input
      suggestions := completion.suggestions }
  | _ => s

/-- Puts what the history recalls into the input. -/
def showRecalled (s : Session σ) (found : Option String × History) : Session σ :=
  { s with input := found.1.getD s.input, history := found.2, suggestions := [] }

/-- Recalls an older line. -/
def historyUp (s : Session σ) : Session σ :=
  match s.mode with
  | .running _ => s
  | _ => s.showRecalled (s.history.older s.input)

/-- Recalls a newer line, and at last the input that browsing began with. -/
def historyDown (s : Session σ) : Session σ :=
  match s.mode with
  | .running _ => s
  | _ => s.showRecalled s.history.newer

/-- What is said when a full-screen program ends. -/
def farewell : Subprogram → String
  | .game => "Game over. Hope you had fun!"
  | .viewer filename _ => s!"\"{filename}\" closed."
  | .editor _ => "Edit cancelled."

/-- Ends the full-screen program. -/
def exitProgram (s : Session σ) : Session σ :=
  match s.mode with
  | .running program => { s with mode := .normal }.print .system (.text (farewell program))
  | _ => s

/-- Saves from the editor, which stays open if the backend fails. -/
def saveEdit (s : Session σ) (content : String) : Session σ :=
  match s.mode with
  | .running (.editor post) =>
    let (answer, s) := s.ask (Backend.updateContent post.id content)
    match answer with
    | .ok () =>
      { s with mode := .normal }.print .system (.text s!"Post \"{post.title}\" saved successfully.")
    | .error e => s.print .system (.text s!"Failed to save post: {e.message}")
  | _ => s

/-- Leaves the editor without saving. -/
def cancelEdit (s : Session σ) : Session σ :=
  match s.mode with
  | .running (.editor _) => s.exitProgram
  | _ => s

end Session

/-- What can happen to a session. -/
inductive Event where
  | submit
  | submitLine (line : String)
  | tab
  | setInput (input : String)
  | historyUp
  | historyDown
  | exitProgram
  | saveEdit (content : String)
  | cancelEdit
  | sync
  | setTheme (theme : Theme)
deriving DecidableEq, Repr

/-- The session after an event. -/
def Session.step {σ : Type} [Backend σ] (s : Session σ) : Event → Session σ
  | .submit => s.submit
  | .submitLine line => s.submitLine line
  | .tab => s.tab
  | .setInput input => s.setInput input
  | .historyUp => s.historyUp
  | .historyDown => s.historyDown
  | .exitProgram => s.exitProgram
  | .saveEdit content => s.saveEdit content
  | .cancelEdit => s.cancelEdit
  | .sync => s.sync
  | .setTheme theme => s.setTheme theme

/-- The session after events in order. -/
def Session.run {σ : Type} [Backend σ] (s : Session σ) (events : List Event) : Session σ :=
  events.foldl step s

end PortfolioShell
