import PortfolioShell.Text.CharRange
import PortfolioShell.Text.CaseTable

/-!
# Lowercase and case folding

Lowercase is the full mapping: a capital I with a dot above becomes two characters, and a
capital sigma takes its final form at the end of a word. Case folding works character by
character and never changes the length of a text.
-/
namespace PortfolioShell.Text

/-- Whether the first character that is not passed over is a cased letter. -/
def meetsCased (text : List Char) : Bool :=
  match text.dropWhile (inRanges caseIgnorableRanges) with
  | [] => false
  | c :: _ => inRanges casedRanges c

/-- A sigma ends a word if a cased letter stands before it and none after it. -/
def lowerSigma (before after : List Char) : Char :=
  if meetsCased before && !meetsCased after then 'ς' else 'σ'

/-- The lowercase form of one character outside any context. -/
def lowerChar (c : Char) : List Char :=
  if c = 'İ' then ['i', '\u0307'] else [mapRuns lowercaseRuns c]

/-- Lowercase of a text whose preceding characters, nearest first, are `before`. -/
def lowerAfter (before : List Char) : List Char → List Char
  | [] => []
  | c :: rest =>
    (if c = 'Σ' then [lowerSigma before rest] else lowerChar c) ++ lowerAfter (c :: before) rest

/-- The lowercase form of a text. -/
def lower (text : List Char) : List Char := lowerAfter [] text

/-- The simple case folding of a character. -/
def foldChar (c : Char) : Char := mapRuns foldRuns c

end PortfolioShell.Text
