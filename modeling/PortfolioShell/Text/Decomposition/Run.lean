/-!
# Runs of decompositions

Neighbouring characters often decompose alike, with one character of the image counting up
along with the source. A run stores such neighbours once.
-/
namespace PortfolioShell.Text.Decomposition

/-- `count` code points from `first` on; the `k`-th has the image with `k` added at `moving`. -/
structure Run where
  first : Nat
  count : Nat
  moving : Nat
  image : List Nat

/-- The image of a code point, if the run holds it. -/
def Run.expand? (run : Run) (code : Nat) : Option (List Nat) :=
  if run.first ≤ code ∧ code < run.first + run.count then
    some (run.image.modify run.moving (· + (code - run.first)))
  else none

/-- The image of a code point under the first of the ascending runs that holds it. -/
def expandIn? : List Run → Nat → Option (List Nat)
  | [], _ => none
  | run :: rest, code =>
    if code < run.first then none else (run.expand? code).or (expandIn? rest code)

example : Run.expand? ⟨0x2474, 9, 1, [0x28, 0x31, 0x29]⟩ 0x2476 = some [0x28, 0x33, 0x29] := by
  decide

end PortfolioShell.Text.Decomposition
