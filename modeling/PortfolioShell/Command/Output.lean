import PortfolioShell.Block
import PortfolioShell.Post.Basic
import PortfolioShell.Theme

/-!
# Command output

A command never touches the session. It gives back what to print, or an instruction that only the
session carries out.
-/
namespace PortfolioShell

/-- What a password is asked for. -/
inductive AuthKind where
  | login
  | signup
deriving DecidableEq, Repr

/-- A login or signup that waits for its password. -/
structure AuthAction where
  kind : AuthKind
  email : String
deriving DecidableEq, Repr

/-- What a command asks of the session. -/
inductive Directive where
  | requestPassword (action : AuthAction)
  | setTheme (theme : Theme)
  | startTutorial
  | startGame
  | openViewer (filename content : String)
  | openEditor (post : Post)
deriving DecidableEq, Repr

/-- What a command gives back. Empty text and an empty list of blocks print nothing. -/
inductive Output where
  | text (s : String)
  | rich (blocks : Rich)
  | clear
  | directive (directive : Directive)
deriving DecidableEq, Repr

/-- Output that prints nothing. -/
def Output.silent : Output := .text ""

/-- The outcome of a line: no output for a blank one, and the directory to change to. -/
structure Dispatch where
  output : Option Output
  cwd : Option String
deriving DecidableEq, Repr

end PortfolioShell
