import PortfolioShell.Theme

/-!
# Palettes

The colours of each theme, by what they are used for, and the control sequences that switch them
on and off.
-/
namespace PortfolioShell

/-- A colour by the strength of its parts. -/
structure Color where
  red : Nat
  green : Nat
  blue : Nat
deriving DecidableEq, Repr

/-- The colour that a number of twenty-four bits writes, red foremost. -/
def Color.ofCode (code : Nat) : Color := ⟨code / 0x10000 % 0x100, code / 0x100 % 0x100, code % 0x100⟩

/-- The colours of a theme. -/
structure Palette where
  foreground : Color
  dim : Color
  accent : Color
  directory : Color
  success : Color
  highlight : Color
  error : Color
deriving DecidableEq, Repr

/-- The palette of a theme. -/
def Theme.palette : Theme → Palette
  | .tokyoNight => ⟨.ofCode 0xc0caf5, .ofCode 0x565f89, .ofCode 0x7aa2f7, .ofCode 0x7dcfff,
      .ofCode 0x9ece6a, .ofCode 0xe0af68, .ofCode 0xf7768e⟩
  | .dracula => ⟨.ofCode 0xf8f8f2, .ofCode 0x6272a4, .ofCode 0xbd93f9, .ofCode 0x8be9fd,
      .ofCode 0x50fa7b, .ofCode 0xf1fa8c, .ofCode 0xff5555⟩
  | .gruvbox => ⟨.ofCode 0xebdbb2, .ofCode 0x928374, .ofCode 0x83a598, .ofCode 0x8ec07c,
      .ofCode 0xb8bb26, .ofCode 0xfabd2f, .ofCode 0xfb4934⟩

/-- The sequence that switches to a colour. -/
def Color.on (color : Color) : String := s!"\x1b[38;2;{color.red};{color.green};{color.blue}m"

/-- Text in a colour. -/
def Color.paint (color : Color) (text : String) : String := color.on ++ text ++ "\x1b[39m"

/-- Text in a colour and bold. -/
def Color.paintBold (color : Color) (text : String) : String :=
  color.on ++ "\x1b[1m" ++ text ++ "\x1b[0m"

end PortfolioShell
