import PortfolioShell.Text.Words

/-!
# Themes

The fixed colour themes of the terminal and their names.
-/
namespace PortfolioShell

/-- A colour theme. -/
inductive Theme where
  | tokyoNight
  | dracula
  | gruvbox
deriving DecidableEq, Repr

namespace Theme

/-- Every theme, in the order they are offered. -/
def all : List Theme := [tokyoNight, dracula, gruvbox]

/-- The theme of a session that nobody has chosen one for. -/
def fallback : Theme := tokyoNight

/-- The name a theme is chosen by. -/
def name : Theme → String
  | tokyoNight => "tokyonight"
  | dracula => "dracula"
  | gruvbox => "gruvbox"

/-- The theme of a name; names are compared exactly. -/
def ofName? (name : String) : Option Theme := all.find? (·.name == name)

/-- The names on offer. -/
def offered : String := Text.join ", " (all.map name)

/-- What is said about a name that no theme has. -/
def unknownMessage (name : String) : String :=
  s!"Theme '{name}' not found. Available themes: {offered}"

end Theme

example : ∀ t ∈ Theme.all, Theme.ofName? t.name = some t := by decide

end PortfolioShell
