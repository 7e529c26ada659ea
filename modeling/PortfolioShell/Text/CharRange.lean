/-!
# Ranges of characters

Character classes are lists of inclusive ranges of code points, character mappings are lists of
runs that move a stretch of code points, or every second one of it, to another place. The lists
ascend, so a look-up may stop at the first entry past the character.
-/
namespace PortfolioShell.Text

/-- Whether one of the ascending ranges holds the character. -/
def inRanges : List (Nat × Nat) → Char → Bool
  | [], _ => false
  | (first, last) :: rest, c => first ≤ c.toNat && (c.toNat ≤ last || inRanges rest c)

/-- The image of a character under the first of the ascending runs that holds it, else the
character itself. -/
def mapRuns : List (Nat × Nat × Nat × Nat) → Char → Char
  | [], c => c
  | (first, last, stride, image) :: rest, c =>
    if c.toNat < first then c
    else if c.toNat ≤ last && (c.toNat - first) % stride == 0 then
      Char.ofNat (image + (c.toNat - first))
    else mapRuns rest c

example : mapRuns [(0x41, 0x5A, 1, 0x61)] 'Q' = 'q' := by decide

end PortfolioShell.Text
