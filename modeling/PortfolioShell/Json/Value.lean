/-!
# JSON values

A value keeps everything of its text that a record can depend on: members in their order and with
their repetitions, and numbers as they are written. A string is the list of its units, because an
escape can name half of a surrogate pair; such a string has no text.
-/
namespace PortfolioShell

/-- JSON as read. The units of a string are code points, or surrogates that an escape named. -/
inductive Json where
  | null
  | bool (value : Bool)
  | number (literal : List Char)
  | string (units : List Nat)
  | array (items : List Json)
  | object (members : List (List Nat × Json))

namespace Json

/-- Whether a unit is the first or the second half of a surrogate pair. -/
def isHighSurrogate (unit : Nat) : Bool := 0xD800 ≤ unit && unit < 0xDC00
def isLowSurrogate (unit : Nat) : Bool := 0xDC00 ≤ unit && unit < 0xE000

/-- The characters of units. Both halves of a pair make one character; half a pair makes none. -/
def decodeUnits : List Nat → Option (List Char)
  | [] => some []
  | high :: low :: rest =>
    if isHighSurrogate high then
      if isLowSurrogate low then
        (decodeUnits rest).map
          (Char.ofNat (0x10000 + (high - 0xD800) * 0x400 + (low - 0xDC00)) :: ·)
      else none
    else if isLowSurrogate high then none
    else (decodeUnits (low :: rest)).map (Char.ofNat high :: ·)
  | [unit] => if isHighSurrogate unit || isLowSurrogate unit then none else some [Char.ofNat unit]

/-- The text of units. -/
def textOfUnits (units : List Nat) : Option String := (decodeUnits units).map String.ofList

/-- The text of a string. -/
def text? : Json → Option String
  | .string units => textOfUnits units
  | _ => none

/-- A truth value. -/
def bool? : Json → Option Bool
  | .bool value => some value
  | _ => none

/-- The items of an array. -/
def items? : Json → Option (List Json)
  | .array items => some items
  | _ => none

/-- A list whose items all pass a reader. -/
def list? {α : Type} (item? : Json → Option α) (value : Json) : Option (List α) :=
  value.items?.bind (·.mapM item?)

/-- The largest natural number of sixty-four bits. -/
def wordLimit : Nat := 0xFFFFFFFFFFFFFFFF

/-- A natural number of sixty-four bits, written as digits alone. -/
def word? : Json → Option Nat
  | .number literal =>
    if literal.all Char.isDigit then
      let n := literal.foldl (fun n d => 10 * n + (d.toNat - '0'.toNat)) 0
      if n ≤ wordLimit then some n else none
    else none
  | _ => none

/-- A value that may be `null`. -/
def nullable? {α : Type} (read? : Json → Option α) : Json → Option (Option α)
  | .null => some none
  | value => (read? value).map some

end Json

end PortfolioShell
