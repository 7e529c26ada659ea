/-!
# Taking texts apart

A normalizer knows what characters are made of. Which decomposition it has is left open; the one
thing that is relied on is that it lets ASCII be.
-/
namespace PortfolioShell.Text

/-- Characters of ASCII only. -/
def IsAscii (text : List Char) : Prop := ∀ c ∈ text, c.toNat < 128

instance (text : List Char) : Decidable (IsAscii text) := List.decidableBAll _ text

/-- The compatibility decomposition of texts, and which characters are combining marks. -/
structure Normalizer where
  decompose : List Char → List Char
  isMark : Char → Bool

/-- ASCII is decomposed already, and has no combining marks. -/
structure Normalizer.KeepsAscii (normalizer : Normalizer) : Prop where
  decompose : ∀ text, IsAscii text → normalizer.decompose text = text
  isMark : ∀ c : Char, c.toNat < 128 → normalizer.isMark c = false

/-- The characters of a text taken apart, without combining marks. -/
def Normalizer.letters (normalizer : Normalizer) (text : String) : List Char :=
  (normalizer.decompose text.toList).filter (!normalizer.isMark ·)

end PortfolioShell.Text
