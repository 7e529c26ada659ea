import PortfolioShell.Command.Registry
import PortfolioShell.Text.Decomposition
import PortfolioShell.Text.Matcher.Literal
import PortfolioShell.Time.Instant
import PortfolioShell.Tree

/-!
# What commands may read

Beside its arguments a command sees the site with the tree built from it, the registry, and the
machine the terminal runs on.
-/
namespace PortfolioShell

/-- The machine and its clock, and what it knows about texts. -/
structure Host where
  os : String
  cpu : String
  now : Time.LocalTime
  matcher : Text.Matcher
  normalizer : Text.Normalizer

/-- The machine at a given time. -/
def Host.at (now : Time.LocalTime) : Host := ⟨"linux", "x86_64", now, .literal, .unicode⟩

/-- Everything commands may read that no command changes. -/
structure Setting where
  site : Site
  tree : Tree
  registry : Registry
  host : Host

end PortfolioShell
