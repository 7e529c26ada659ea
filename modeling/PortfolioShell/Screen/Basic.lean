import PortfolioShell.Screen.Render
import PortfolioShell.Session

/-!
# The screen

The screen prints each line once and remembers how far it has come. Echoes of the input are not
printed, because whoever types has seen them. When the scrollback has been cleared, the screen is
wiped first.
-/
namespace PortfolioShell

/-- The number of the last line seen, and the epoch it was seen in. -/
structure Screen where
  lastId : Option Nat
  epoch : Nat
deriving DecidableEq, Repr

namespace Screen

/-- A screen that has printed nothing. -/
def blank : Screen := ⟨none, 0⟩

/-- The sequence that wipes the screen and what was scrolled off it. -/
def wipe : String := "\x1b[2J\x1b[3J\x1b[1;1H"

/-- Whether a line comes after the last one seen. -/
def isNew (lastId : Option Nat) (line : Line) : Bool :=
  match lastId with
  | some id => id < line.id
  | none => true

/-- What is printed for new lines. -/
def printed (palette : Palette) (lines : List Line) : String :=
  Text.join "" ((lines.filter (·.role != .input)).map fun line => palette.line line ++ "\n")

/-- Goes through lines from the last one seen and gives the new ones with the last seen then. -/
def advance (lastId : Option Nat) : List Line → List Line × Option Nat
  | [] => ([], lastId)
  | line :: rest =>
    if isNew lastId line then
      let (more, last) := advance (some line.id) rest
      (line :: more, last)
    else advance lastId rest

/-- Prints what has been added to a session since the last time. -/
def render {σ : Type} (screen : Screen) (s : Session σ) : String × Screen :=
  let isWiped := s.epoch != screen.epoch
  let (lines, lastId) := advance (if isWiped then none else screen.lastId) s.lines.items
  ((if isWiped then wipe else "") ++ printed s.theme.palette lines, ⟨lastId, s.epoch⟩)

end Screen

end PortfolioShell
