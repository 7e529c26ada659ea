import PortfolioShell.Text.Words

/-!
# Art

Drawings made of characters.
-/
namespace PortfolioShell.Art

/-- The banner of the session, row by row. -/
def bannerRows : List String := [
  " ███████  ██████  ██      ██  ██████  ███████ ██   ██",
  " ██      ██    ██ ██      ██ ██    ██ ██      ██   ██",
  " █████   ██    ██ ██      ██ ██    ██ ███████ ███████",
  " ██      ██    ██ ██      ██ ██    ██      ██ ██   ██",
  " ██       ██████  ███████ ██  ██████  ███████ ██   ██"]

/-- The penguin beside the system information, row by row. -/
def penguinRows : List String := [
  "         _nnnn_",
  "        dGGGGMMb",
  "       @p~qp~~qMb",
  "       M|@||@) M|",
  "       @,----.JM|",
  "      JS^\\__/  qKL",
  "     dZP        qKRb",
  "    dZP          qKKb",
  "   fZP            SMMb",
  "   HZM            MMMM",
  "   FqM            MMMM",
  " __| \".        |\\dS\"qML",
  " |    `.       | `' \\Zq",
  "_)      \\.___.,|     .'",
  "\\____   )MMMMMP|   .'",
  "     `-'       `--'"]

/-- The player and two ghosts, with the blank rows around them. -/
def pacmanRows : List String := [
  "",
  "   .--.",
  "  / _.-'   .  .  .  .  .",
  "  \\  '-.",
  "   '--'    ᗣ       ᗣ",
  ""]

/-- The banner. -/
def banner : String := Text.join "\n" bannerRows

/-- The penguin. -/
def penguin : String := Text.join "\n" penguinRows

/-- The opening screen of the game. -/
def pacman : String := Text.join "\n" pacmanRows

end PortfolioShell.Art
