import PortfolioShell.Text.Lowercase
import PortfolioShell.Text.Matcher

/-!
# Literal expressions

A matcher that understands no operators: a character stands for itself, one that could be an
operator only behind a backslash. It looks at one place of a line after the other, goes on behind
what it has found, and compares foldings. A pattern is folded once, and so is every line.
-/
namespace PortfolioShell.Text

/-- A character of a line with its case folding. -/
structure Letter where
  char : Char
  folded : Char

namespace Letter

/-- A character as a letter of a line. -/
def ofChar (c : Char) : Letter := ⟨c, foldChar c⟩

/-- The size of letters in bytes. -/
def sizes : List Letter → Nat
  | [] => 0
  | letter :: rest => letter.char.utf8Size + sizes rest

end Letter

namespace Literal

/-- The characters that can be operators. -/
def operators : List Char := "\\.+*?()|[]\x7b\x7d^$#&-~".toList

/-- The expression of a character. -/
def escapeChar (c : Char) : List Char := if operators.contains c then ['\\', c] else [c]

/-- The expression of a text. -/
def escape (text : String) : String := String.ofList (text.toList.flatMap escapeChar)

/-- The text that an expression stands for. -/
def unescape? : List Char → Option (List Char)
  | [] => some []
  | '\\' :: c :: rest =>
    if operators.contains c then (unescape? rest).map (c :: ·) else none
  | c :: rest => if operators.contains c then none else (unescape? rest).map (c :: ·)

/-- Whether a line begins with a folded pattern when it is folded too. -/
def beginsAlike : List Char → List Letter → Bool
  | [], _ => true
  | _ :: _, [] => false
  | p :: pattern, letter :: line => p == letter.folded && beginsAlike pattern line

/-- Where a folded pattern is found in a line that begins at `start`, in bytes. Behind an empty
match the search goes on with the next character. -/
def offsets (pattern : List Char) (start : Nat) : List Letter → List (Nat × Nat)
  | [] => if pattern.isEmpty then [(start, start)] else []
  | letter :: rest =>
    let further := start + letter.char.utf8Size
    if beginsAlike pattern (letter :: rest) then
      let stop := start + Letter.sizes ((letter :: rest).take pattern.length)
      (start, stop) :: offsets pattern (max further stop) (rest.drop (pattern.length - 1))
    else offsets pattern further rest
termination_by line => line.length

/-- A stretch between two offsets, if they are positions of the line. -/
def match? (line : String) (stretch : Nat × Nat) : Option (Match line) :=
  let start : String.Pos.Raw := ⟨stretch.1⟩
  let stop : String.Pos.Raw := ⟨stretch.2⟩
  if h : start.IsValid line ∧ stop.IsValid line ∧ start ≤ stop then
    some ⟨⟨start, h.1⟩, ⟨stop, h.2.1⟩, h.2.2⟩
  else none

/-- The matches of a folded pattern. -/
def finder (pattern : List Char) : Finder := fun line =>
  (offsets pattern 0 (line.toList.map .ofChar)).filterMap (match? line)

end Literal

/-- The matcher of literal expressions. -/
def Matcher.literal : Matcher where
  escape := Literal.escape
  compile? expression :=
    ((Literal.unescape? expression.toList).map (·.map foldChar)).map Literal.finder

end PortfolioShell.Text
