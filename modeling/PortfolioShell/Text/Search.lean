import PortfolioShell.Block
import PortfolioShell.Text.Lowercase
import PortfolioShell.Text.Matcher
import PortfolioShell.Text.Words

/-!
# Searching lines

A line is found if its lowercase form contains that of the pattern. A found line is cut into
spans at the matches of the pattern, which stands for itself. If the pattern does not compile, a
found line stays whole.
-/
namespace PortfolioShell.Text

/-- Whether a text contains a pattern. -/
def contains (pattern : List Char) : List Char → Bool
  | [] => pattern.isEmpty
  | c :: rest => pattern.isPrefixOf (c :: rest) || contains pattern rest

/-- What stands between two positions of a line, as a span of its own unless there is nothing. -/
def gap {line : String} (last next : line.Pos) : List Span :=
  if last < next then [⟨line.extract last next, false⟩] else []

/-- The spans of a line behind the end of the last match. -/
def spansFrom {line : String} (last : line.Pos) : List (Match line) → List Span
  | [] => gap last line.endPos
  | found :: rest => gap last found.start ++ ⟨found.text, true⟩ :: spansFrom found.stop rest

/-- The spans of a line. -/
def spans (find? : Option Finder) (line : String) : List Span :=
  match find? with
  | none => [⟨line, false⟩]
  | some find => spansFrom line.startPos (find line)

/-- Whether a line holds a needle in lower case. -/
def isFound (needle : List Char) (line : String) : Bool := contains needle (lower line.toList)

/-- The found lines of a text, in order and cut into spans. -/
def search (matcher : Matcher) (pattern text : String) : List (List Span) :=
  let needle := lower pattern.toList
  let find? := matcher.finder? pattern
  ((lines text).filter (isFound needle)).map (spans find?)

end PortfolioShell.Text
