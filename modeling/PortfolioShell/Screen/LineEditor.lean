import PortfolioShell.Screen.Palette
import PortfolioShell.Session

/-!
# The line editor

What a line editor asks of the session while a line is typed: completion of the text before the
cursor, a coloured prompt, and a mask for passwords.
-/
namespace PortfolioShell.LineEditor

/-- One thing to choose: how it is listed and what it puts into the line. -/
structure Choice where
  shown : String
  inserted : String
deriving DecidableEq, Repr

/-- The longest part of a text that fits in so many bytes. -/
def takeBytes : Nat → List Char → List Char
  | _, [] => []
  | size, c :: rest => if c.utf8Size ≤ size then c :: takeBytes (size - c.utf8Size) rest else []

/-- Completes a line up to a position in bytes. A new line replaces the old from its start on;
candidates are listed at the position and insert nothing. -/
def complete {σ : Type} [Backend σ] (s : Session σ) (line : String) (position : Nat) :
    (Nat × List Choice) × Session σ :=
  let typed := String.ofList (takeBytes position line.toList)
  let s := (s.setInput typed).tab
  if s.input != typed then ((0, [⟨s.input, s.input⟩]), s)
  else ((position, s.suggestions.map (⟨·, ""⟩)), s)

/-- The line as it is shown. -/
def shown (masking : Bool) (line : String) : String := if masking then Session.mask line else line

/-- The prompt in the accent colour. -/
def shownPrompt (theme : Theme) (prompt : String) : String := theme.palette.accent.paint prompt

end PortfolioShell.LineEditor
