import PortfolioShell.Text.Words
import PortfolioShell.Time.Instant

/-!
# Reading instants

Records carry instants as a date, a time of day and an offset, such as
`2024-03-14T09:05:00.5+02:00`. Reading is lenient about blanks around numbers, about missing
leading zeros, and about a year with a sign, which may have any number of digits. The date must
be on the calendar, and the instant must be on it in universal time too. A second 60 is a leap
second. A reader gives what it found and the text after it.
-/
namespace PortfolioShell.Time.Reading

/-- The number that digits write, most significant digit first. -/
def digitsValue (digits : List Char) : Nat :=
  digits.foldl (fun n d => 10 * n + (d.toNat - '0'.toNat)) 0

/-- Reads digits, at least one. -/
def number (text : List Char) : Option (Nat × List Char) :=
  match text.takeWhile Char.isDigit with
  | [] => none
  | digits => some (digitsValue digits, text.dropWhile Char.isDigit)

/-- Reads digits, at least one and at most `most`. -/
def shortNumber (most : Nat) (text : List Char) : Option (Nat × List Char) :=
  match (text.take most).takeWhile Char.isDigit with
  | [] => none
  | digits => some (digitsValue digits, text.drop digits.length)

/-- Reads a number of at most two digits, after any blanks, that is at most `last`. -/
def field (last : Nat) (text : List Char) : Option (Nat × List Char) := do
  let (n, rest) ← shortNumber 2 (Text.trimStart text)
  if n ≤ last then some (n, rest) else none

/-- Reads a year, after any blanks: up to four digits, or a sign and any number of digits. -/
def year (text : List Char) : Option (Int × List Char) :=
  match Text.trimStart text with
  | '-' :: rest => do
    let (n, rest) ← number rest
    some (-(n : Int), rest)
  | '+' :: rest => do
    let (n, rest) ← number rest
    some ((n : Int), rest)
  | rest => do
    let (n, rest) ← shortNumber 4 rest
    some ((n : Int), rest)

/-- Passes a given character. -/
def mark (c : Char) : List Char → Option (List Char)
  | d :: rest => if d = c then some rest else none
  | [] => none

/-- Reads a date. -/
def date (text : List Char) : Option (CivilDate × List Char) := do
  let (y, rest) ← year text
  let (m, rest) ← field 12 (← mark '-' (Text.trimStart rest))
  let (d, rest) ← field 31 (← mark '-' (Text.trimStart rest))
  some (⟨y, m, d⟩, rest)

/-- Reads the fraction of a second in nanoseconds; digits after the ninth do not count. -/
def fraction : List Char → Option (Nat × List Char)
  | '.' :: rest =>
    match rest.takeWhile Char.isDigit with
    | [] => none
    | digits =>
      some (digitsValue ((digits ++ List.replicate 9 '0').take 9), rest.dropWhile Char.isDigit)
  | rest => some (0, rest)

/-- Reads a time of day: the second within the day, and nanoseconds. In a leap second the second
is the one before and the nanoseconds count on. -/
def timeOfDay (text : List Char) : Option ((Nat × Nat) × List Char) := do
  let (hour, rest) ← field 23 text
  let (minute, rest) ← field 59 (← mark ':' (Text.trimStart rest))
  let (second, rest) ← field 60 (← mark ':' (Text.trimStart rest))
  let (nanos, rest) ← fraction rest
  if second = 60 then some ((hour * 3600 + minute * 60 + 59, nanos + 1000000000), rest)
  else some ((hour * 3600 + minute * 60 + second, nanos), rest)

/-- Reads exactly two digits. -/
def twoDigits : List Char → Option (Nat × List Char)
  | a :: b :: rest => if a.isDigit && b.isDigit then some (digitsValue [a, b], rest) else none
  | _ => none

/-- Reads hours and minutes of an offset, with any colons and blanks between them, in seconds. -/
def offsetSize (text : List Char) : Option (Int × List Char) := do
  let (hours, rest) ← twoDigits text
  let (minutes, rest) ← twoDigits (rest.dropWhile fun c => c == ':' || Text.isBlank c)
  if minutes ≤ 59 then some ((hours * 3600 + minutes * 60 : Nat), rest) else none

/-- Reads an offset: `UTC` in any case, `Z` in either case, or a sign with hours and minutes. The
minus sign proper stands for a hyphen. -/
def offset (text : List Char) : Option (Int × List Char) :=
  if (text.take 3).map Char.toLower = ['u', 't', 'c'] then some (0, text.drop 3)
  else match text with
    | 'Z' :: rest | 'z' :: rest => some (0, rest)
    | '+' :: rest => offsetSize rest
    | '-' :: rest | '−' :: rest => do
      let (size, rest) ← offsetSize rest
      some (-size, rest)
    | _ => none

/-- Passes the character between date and time of day. -/
def gap : List Char → Option (List Char)
  | 'T' :: rest | 't' :: rest | ' ' :: rest => some rest
  | _ => none

/-- Reads an instant that fills the whole text, blanks at the ends aside. -/
def instant? (text : String) : Option Instant := do
  let (day, rest) ← date text.toList
  let ((second, nanos), rest) ← timeOfDay (← gap rest)
  let (east, rest) ← offset (Text.trimStart rest)
  let read : Instant := ⟨day.toDays * secondsPerDay + second - east, nanos⟩
  if (Text.trimStart rest).isEmpty && day.isValid && yearInRange day.year && offsetInRange east &&
      read.inRange then
    some read
  else none

end PortfolioShell.Time.Reading
