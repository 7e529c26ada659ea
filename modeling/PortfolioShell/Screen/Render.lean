import PortfolioShell.Line
import PortfolioShell.Screen.Palette

/-!
# Coloured lines

Scrollback lines with control sequences for their colours. Without the sequences a line reads as
its plain text.
-/
namespace PortfolioShell

namespace Palette

/-- A name of a listing: directories are bold, hidden files dim. -/
def entry (palette : Palette) (entry : ListEntry) : String :=
  match entry.kind with
  | .directory => palette.directory.paintBold entry.name
  | .file => palette.foreground.paint entry.name
  | .hidden => palette.dim.paint entry.name

/-- A stretch of a found line. -/
def span (palette : Palette) (span : Span) : String :=
  if span.highlighted then palette.highlight.paintBold span.text
  else palette.foreground.paint span.text

/-- An aligned row. -/
def row (palette : Palette) (width : Nat) (separator : String) (pair : String × String) : String :=
  "  " ++ palette.accent.paint (Text.padRight width pair.1) ++ palette.dim.paint separator ++
    palette.foreground.paint pair.2

/-- A block. -/
def block (palette : Palette) : Block → String
  | .text s | .pre s => palette.foreground.paint s
  | .success s => palette.success.paint s
  | .heading s => palette.accent.paintBold s
  | .ascii s => palette.accent.paint s
  | .pairs rows separator =>
    Text.join "\n" (rows.map (palette.row (Block.keyWidth rows) separator))
  | .listing entries => Text.join "  " (entries.map palette.entry)
  | .found lines =>
    Text.join "\n" (lines.map fun spans => Text.join "" (spans.map palette.span))

/-- A line of the scrollback. Text of the terminal itself is dim. -/
def line (palette : Palette) (line : Line) : String :=
  match line.data with
  | .prompt prompt input => palette.accent.paint prompt ++ " " ++ palette.foreground.paint input
  | .text s => if line.role = .system then palette.dim.paint s else palette.foreground.paint s
  | .rich blocks => Text.join "\n" (blocks.map palette.block)

end Palette

end PortfolioShell
