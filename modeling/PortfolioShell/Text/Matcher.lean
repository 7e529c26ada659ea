/-!
# Matchers

A matcher compiles expressions and finds where they match. A match begins and ends between two
characters of the line, so its text and what stands beside it can be cut out. How a matcher finds
its matches is left open. What is relied on is said of escaped expressions only: these stand for a
text, and they find it from left to right, without overlap, where characters of one folding count
as one.
-/
namespace PortfolioShell.Text

/-- A stretch of a line, from one position to another. -/
structure Match (line : String) where
  start : line.Pos
  stop : line.Pos
  ordered : start ≤ stop

/-- The text of a match. -/
def Match.text {line : String} (found : Match line) : String := line.extract found.start found.stop

/-- A compiled expression: the matches it finds in a line. -/
abbrev Finder := (line : String) → List (Match line)

/-- How a text is made an expression that stands for it, and what compiles. Compiled expressions
do not tell upper from lower case. -/
structure Matcher where
  escape : String → String
  compile? : String → Option Finder

/-- The expression of a pattern that stands for itself, if it compiles. -/
def Matcher.finder? (matcher : Matcher) (pattern : String) : Option Finder :=
  matcher.compile? (matcher.escape pattern)

/-- Whether two texts are the same but for characters of one folding. -/
def Alike (fold : Char → Char) (a b : String) : Prop := a.toList.map fold = b.toList.map fold

/-- The matches of a pattern in a line, from left to right. -/
structure FindsAlike (fold : Char → Char) (pattern : String) {line : String}
    (found : List (Match line)) : Prop where
  alike : ∀ m ∈ found, Alike fold m.text pattern
  /-- They are in order and do not overlap. -/
  apart : found.Pairwise fun a b => a.start < b.start ∧ a.stop ≤ b.start
  /-- Where something is alike the pattern, it is found, or what is found before reaches into it. -/
  leftmost : ∀ start stop : line.Pos, start ≤ stop → Alike fold (line.extract start stop) pattern →
    ∃ m ∈ found, m.start = start ∨ m.start < start ∧ start < m.stop

/-- What is relied on: a pattern that compiles finds what is alike, and the empty one compiles. -/
structure Matcher.FindsLiterally (matcher : Matcher) (fold : Char → Char) : Prop where
  empty : (matcher.finder? "").isSome
  finds : ∀ pattern find, matcher.finder? pattern = some find →
    ∀ line, FindsAlike fold pattern (find line)

end PortfolioShell.Text
