import PortfolioShell.Text.Decomposition.Run
import PortfolioShell.Text.Decomposition.Letters
import PortfolioShell.Text.Decomposition.Symbols
import PortfolioShell.Text.Decomposition.Ideographs
import PortfolioShell.Text.Decomposition.Presentation
import PortfolioShell.Text.Decomposition.Supplement
import PortfolioShell.Text.Decomposition.IdeographsSupplement
import PortfolioShell.Text.CharRange
import PortfolioShell.Text.CombiningTable
import PortfolioShell.Text.MarkTable
import PortfolioShell.Text.Normalizer

/-!
# Compatibility decomposition

Normalization form KD: every character is replaced by its full compatibility decomposition, and
each stretch of characters with a combining class is put in the order of the classes.
-/
namespace PortfolioShell.Text

namespace Decomposition

/-- The runs of the block that a code point above ASCII lies in. -/
def block (code : Nat) : List Run :=
  if code < 0x2000 then lettersRuns
  else if code < 0xF900 then symbolsRuns
  else if code < 0xFB00 then ideographsRuns
  else if code < 0x10000 then presentationRuns
  else if code < 0x2F800 then supplementRuns
  else ideographsSupplementRuns

/-- A Hangul syllable is a leading consonant, a vowel and at most one trailing consonant. -/
def hangul (index : Nat) : List Nat :=
  let tail := index % 28
  [0x1100 + index / 588, 0x1161 + index % 588 / 28] ++ if tail = 0 then [] else [0x11A7 + tail]

/-- The full compatibility decomposition of a code point. ASCII stands for itself. -/
def ofCode (code : Nat) : List Nat :=
  if code < 0x80 then [code]
  else if 0xAC00 ≤ code ∧ code ≤ 0xD7A3 then hangul (code - 0xAC00)
  else (expandIn? (block code) code).getD [code]

end Decomposition

/-- The full compatibility decomposition of a character. -/
def decomposeChar (c : Char) : List Char := (Decomposition.ofCode c.toNat).map Char.ofNat

/-- The class that the first of the ascending ranges to hold a character gives it, else zero. -/
def classIn : List (Nat × Nat × Nat) → Char → Nat
  | [], _ => 0
  | (first, last, cls) :: rest, c =>
    if c.toNat < first then 0 else if c.toNat ≤ last then cls else classIn rest c

/-- The canonical combining class of a character; zero for most. -/
def combiningClass (c : Char) : Nat := classIn combiningRanges c

/-- A stretch of characters with their classes, last one first, in the order of the classes.
Equals stay in place. -/
def orderStretch (stretch : List (Nat × Char)) : List Char :=
  (stretch.reverse.mergeSort (·.1 ≤ ·.1)).map (·.2)

/-- Orders the stretches of characters whose class is not zero. `stretch` is the part of the first
one that stands before the text, last character first. -/
def orderAfter (stretch : List (Nat × Char)) : List (Nat × Char) → List Char
  | [] => orderStretch stretch
  | (cls, c) :: rest =>
    if cls = 0 then orderStretch stretch ++ c :: orderAfter [] rest
    else orderAfter ((cls, c) :: stretch) rest

/-- Orders each stretch of characters with a combining class by that class. -/
def orderMarks (text : List Char) : List Char :=
  orderAfter [] (text.map fun c => (combiningClass c, c))

/-- Normalization form KD of a text. -/
def decompose (text : List Char) : List Char := orderMarks (text.flatMap decomposeChar)

/-- Whether a character is a combining mark of any kind. -/
def isMark (c : Char) : Bool := inRanges markRanges c

/-- The normalizer with the tables of Unicode. -/
def Normalizer.unicode : Normalizer := ⟨Text.decompose, Text.isMark⟩

end PortfolioShell.Text
