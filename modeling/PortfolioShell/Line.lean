import PortfolioShell.Block

/-!
# Scrollback lines

What a session has printed, line by line. A line may span several rows of the screen.
-/
namespace PortfolioShell

/-- Who a line comes from. -/
inductive LineRole where
  | input
  | output
  | system
deriving DecidableEq, Repr

/-- What a line holds: the echo of an input, literal text, or blocks. -/
inductive LineData where
  | prompt (prompt input : String)
  | text (s : String)
  | rich (blocks : Rich)
deriving DecidableEq, Repr

/-- A line with the number it got when it was printed. -/
structure Line where
  id : Nat
  role : LineRole
  data : LineData
deriving DecidableEq, Repr

/-- The plain text of a line. -/
def LineData.plain : LineData → String
  | prompt p input => if input.isEmpty then p else s!"{p} {input}"
  | text s => s
  | rich blocks => Rich.plain blocks

/-- Whether two lines show the same; their numbers do not matter. -/
def Line.sameContent (a b : Line) : Bool := a.role == b.role && a.data == b.data

end PortfolioShell
