import PortfolioShell.Text.Decomposition
import PortfolioShell.Text.Words

/-!
# Slugs

The slug of a title is what stands for it in an address: ASCII letters in lower case and digits,
in groups with one hyphen between neighbours. Accents are taken off first; whatever else is
neither a letter nor a digit parts two groups. A slug is written in one pass: a hyphen waits until
there is something to put on both of its sides.
-/
namespace PortfolioShell.Slug

/-- A slug while it is written, and whether anything was passed over since its last character. -/
structure Writing where
  written : String
  parted : Bool
deriving DecidableEq, Repr

namespace Writing

/-- Nothing is written yet. -/
def empty : Writing := ⟨"", false⟩

/-- What the next letter or digit is put behind. -/
def front (writing : Writing) : String :=
  if writing.parted && !writing.written.isEmpty then writing.written.push '-' else writing.written

/-- Writes a letter or digit of ASCII down, passes over any other character. -/
def take (writing : Writing) (c : Char) : Writing :=
  if c.isAlphanum then ⟨writing.front.push c.toLower, false⟩ else { writing with parted := true }

end Writing

/-- The slug of a text, written in one pass. -/
def write (text : List Char) : Writing := text.foldl Writing.take .empty

/-- The slug of a title; empty if the title has no letter or digit of ASCII behind its accents. -/
def make (normalizer : Text.Normalizer) (title : String) : String :=
  (write (normalizer.letters title)).written

/-- The slug of a title under the decomposition of Unicode. -/
def ofTitle (title : String) : String := make .unicode title

end PortfolioShell.Slug
