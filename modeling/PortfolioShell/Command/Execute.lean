import PortfolioShell.Command.Account
import PortfolioShell.Command.Blog
import PortfolioShell.Command.Files
import PortfolioShell.Command.Info

/-!
# Carrying out lines

A line is cut into words at blanks; there is no quoting. The first word names the command. A
plain command has no way to change the directory.
-/
namespace PortfolioShell

/-- A command with its arguments. -/
structure Invocation where
  name : String
  args : List String
deriving DecidableEq, Repr

/-- The command of a line; none if the line is blank. -/
def Invocation.ofLine? (line : String) : Option Invocation :=
  match Text.words line with
  | [] => none
  | name :: args => some ⟨name, args⟩

/-- The words of an unfinished line. The last one is the word that is being typed; it is empty
after a blank and on an empty line. -/
def partialWords (line : String) : List String :=
  let words := Text.words line
  if words.isEmpty || ((line.toList.getLast?.map Text.isBlank).getD true) then words ++ [""]
  else words

section
variable {σ : Type} [Backend σ]

/-- Runs a plain command. -/
def PlainCommand.run (command : PlainCommand) (args : List String) (setting : Setting) :
    StateM σ Output :=
  match command with
  | help => pure (Info.help setting.registry)
  | welcome => pure (.rich (Info.banner setting.site))
  | about => Info.about
  | contact => pure (.rich setting.site.contactCard)
  | date => pure (Info.date setting.host)
  | echo => pure (.text (Text.join " " args))
  | clear => pure .clear
  | signup => pure (Account.signup args)
  | login => pure (Account.login args)
  | logout => Account.logout
  | whoami => Account.whoami
  | blog => Blog.blog
  | post => Blog.post setting.host.normalizer args
  | theme => pure (Info.theme args)
  | guestbook => pure Info.guestbook
  | neofetch => Info.neofetch setting.host
  | tutorial => pure (.directive .startTutorial)
  | pacman => pure (.directive .startGame)

/-- Output of a file command that stays where it is. -/
def staying (output : StateM σ Output) : StateM σ Dispatch := do
  pure ⟨some (← output), none⟩

/-- Runs a file command in a directory. -/
def FileCommand.run (command : FileCommand) (args : List String) (cwd : String)
    (setting : Setting) : StateM σ Dispatch :=
  match command with
  | projects =>
    let (output, target) := Files.projects args setting.tree
    pure ⟨some output, target⟩
  | ls => pure ⟨some (Files.ls args cwd setting.tree), none⟩
  | cd =>
    let (output, target) := Files.cd args cwd setting.tree
    pure ⟨some output, target⟩
  | cat => staying (Files.cat args cwd setting)
  | pwd => pure ⟨some (.text cwd), none⟩
  | grep => staying (Files.grep args cwd setting)
  | vim => staying (Files.vim args cwd setting)

/-- Runs a command by the way it is called. -/
def Handler.run (handler : Handler) (args : List String) (cwd : String) (setting : Setting) :
    StateM σ Dispatch :=
  match handler with
  | plain command => staying (command.run args setting)
  | file command => command.run args cwd setting

/-- What is said about a name that is not registered. -/
def notRegistered (name : String) : String :=
  s!"Command not found: {name}. Type 'help' for available commands."

/-- Carries out a command in a directory. -/
def Invocation.execute (invocation : Invocation) (setting : Setting) (cwd : String) :
    StateM σ Dispatch :=
  match setting.registry.get? invocation.name with
  | none => pure ⟨some (.text (notRegistered invocation.name)), none⟩
  | some spec => spec.handler.run invocation.args cwd setting

/-- Carries out a line in a directory; a blank line does nothing. -/
def dispatch (line : String) (setting : Setting) (cwd : String) : StateM σ Dispatch :=
  match Invocation.ofLine? line with
  | none => pure ⟨none, none⟩
  | some invocation => invocation.execute setting cwd

end

end PortfolioShell
