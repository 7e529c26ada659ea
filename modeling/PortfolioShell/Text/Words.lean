/-!
# Blanks and words

Texts are cut at characters: words at blanks, lines at line feeds, paths at slashes. A blank is
a character with the Unicode property White_Space. All of it is defined on character lists by
recursion on the list, and carried over to strings.
-/
namespace PortfolioShell.Text

/-- Characters with the property White_Space. -/
def isBlank (c : Char) : Bool :=
  (0x09 ≤ c.toNat && c.toNat ≤ 0x0D) || c.toNat == 0x20 || c.toNat == 0x85 ||
  c.toNat == 0xA0 || c.toNat == 0x1680 || (0x2000 ≤ c.toNat && c.toNat ≤ 0x200A) ||
  c.toNat == 0x2028 || c.toNat == 0x2029 || c.toNat == 0x202F || c.toNat == 0x205F ||
  c.toNat == 0x3000

/-- The stretches between the cuts, empty ones included; there is always at least one. -/
def pieces (isCut : Char → Bool) : List Char → List (List Char)
  | [] => [[]]
  | c :: rest =>
    if isCut c then [] :: pieces isCut rest
    else match pieces isCut rest with
      | [] => [[c]]
      | piece :: more => (c :: piece) :: more

/-- The stretches between the cuts that are not empty. -/
def runs (isCut : Char → Bool) (text : List Char) : List (List Char) :=
  (pieces isCut text).filter (!·.isEmpty)

/-- The text without its leading blanks. -/
def trimStart (text : List Char) : List Char := text.dropWhile isBlank

/-- The text without its trailing blanks. -/
def trimEnd (text : List Char) : List Char := (text.reverse.dropWhile isBlank).reverse

/-- The text without blanks at either end. -/
def trim (text : String) : String := String.ofList (trimEnd (trimStart text.toList))

/-- Whether nothing but blanks stands in the text. -/
def isBlankText (text : String) : Bool := text.toList.all isBlank

/-- The longest stretches without blanks, in order. -/
def words (text : String) : List String := (runs isBlank text.toList).map String.ofList

/-- The stretches between occurrences of a character, empty ones included. -/
def splitAtChar (sep : Char) (text : String) : List String :=
  (pieces (· == sep) text.toList).map String.ofList

/-- The longest stretches without a character, in order. -/
def runsWithout (sep : Char) (text : String) : List String :=
  (runs (· == sep) text.toList).map String.ofList

/-- Drops one carriage return from the end of a line. -/
def dropReturn (line : List Char) : List Char :=
  if line.getLast? = some '\r' then line.dropLast else line

/-- Lines of pieces cut at line feeds: each piece that a line feed ended loses one carriage
return, and what follows the last line feed is a line only if it is not empty. -/
def linesOfPieces : List (List Char) → List (List Char)
  | [] => []
  | [last] => if last.isEmpty then [] else [last]
  | piece :: rest => dropReturn piece :: linesOfPieces rest

/-- The lines of a text, without their ends. -/
def lines (text : String) : List String :=
  (linesOfPieces (pieces (· == '\n') text.toList)).map String.ofList

/-- Joins texts with a separator between neighbours. -/
def join (sep : String) (texts : List String) : String := sep.intercalate texts

/-- Puts blanks after a text until it counts `width` characters. -/
def padRight (width : Nat) (text : String) : String :=
  text ++ String.ofList (List.replicate (width - text.length) ' ')

/-- Puts blanks before a text until it counts `width` characters. -/
def padLeft (width : Nat) (text : String) : String :=
  String.ofList (List.replicate (width - text.length) ' ') ++ text

/-- Whether a text begins with another. -/
def beginsWith (start text : String) : Bool := start.toList.isPrefixOf text.toList

theorem pieces_ne_nil (isCut : Char → Bool) (text : List Char) : pieces isCut text ≠ [] := by
  cases text with
  | nil => simp [pieces]
  | cons c rest =>
    unfold pieces
    split
    · simp
    · split <;> simp

example : runs isBlank [' ', 'a', ' ', ' ', 'b', 'c'] = [['a'], ['b', 'c']] := by decide

end PortfolioShell.Text
