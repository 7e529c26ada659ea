import PortfolioShell.Text.Words

/-!
# Blocks

Command output is a list of blocks: paragraphs, headings, art, aligned pairs, directory listings
and search matches. What is shown decides on layout and colour; each block also has a plain text.
-/
namespace PortfolioShell

/-- How a listed name is shown. -/
inductive EntryKind where
  | directory
  | file
  | hidden
deriving DecidableEq, Repr

/-- One name of a directory listing. -/
structure ListEntry where
  name : String
  kind : EntryKind
deriving DecidableEq, Repr

/-- A stretch of a matching line. -/
structure Span where
  text : String
  highlighted : Bool
deriving DecidableEq, Repr

/-- A piece of output. -/
inductive Block where
  | text (s : String)
  | success (s : String)
  | heading (s : String)
  | ascii (s : String)
  | pre (s : String)
  | pairs (rows : List (String × String)) (separator : String)
  | listing (entries : List ListEntry)
  | found (lines : List (List Span))
deriving DecidableEq, Repr

/-- Blocks one below the other. -/
abbrev Rich := List Block

namespace Block

/-- The width that keys are padded to: that of the longest. -/
def keyWidth (rows : List (String × String)) : Nat :=
  rows.foldl (fun width row => max width row.1.length) 0

/-- One aligned row. -/
def row (width : Nat) (separator : String) (pair : String × String) : String :=
  "  " ++ Text.padRight width pair.1 ++ separator ++ pair.2

/-- The plain text of a block. -/
def plain : Block → String
  | text s | success s | heading s | ascii s | pre s => s
  | pairs rows separator => Text.join "\n" (rows.map (row (keyWidth rows) separator))
  | listing entries => Text.join "  " (entries.map (·.name))
  | found lines =>
    Text.join "\n" (lines.map fun spans => Text.join "" (spans.map (·.text)))

end Block

/-- The plain text of blocks, each on lines of its own. -/
def Rich.plain (rich : Rich) : String := Text.join "\n" (rich.map Block.plain)

end PortfolioShell
