import PortfolioShell.Text.Cluster
import PortfolioShell.Text.Words

/-!
# Standard input

Input that is not typed at a terminal comes as a text of lines. A backspace in a line takes back
the cluster before it. The clusters are those of the line as it came: what a backspace brings
together does not become one cluster. A backspace is a control character, so it is always a
cluster of its own.

A backspace takes back as many bytes as it remembers of its cluster, which for a long cluster are
fewer than it has. Where they begin inside a character, the line is broken, and neither it nor
what comes after it is read.
-/
namespace PortfolioShell

/-- How an input ends: after its last line, or with a broken line. -/
inductive Ending where
  | complete
  | broken
deriving DecidableEq, Repr

/-- The exit code of a program whose input ends so. -/
def Ending.exitCode : Ending → Nat
  | complete => 0
  | broken => 101

/-- An input as it is read: the lines that come before its end, and how it ends. -/
structure Input where
  lines : List String
  ending : Ending
deriving DecidableEq, Repr

namespace Input

/-- The backspace character. -/
def backspace : Char := '\x08'

/-- A line as far as it has been taken in: its characters, last first, and the sizes of the
clusters that can be taken back, last first. -/
structure Typed where
  text : List Char
  sizes : List Nat
deriving DecidableEq, Repr

/-- The size of a cluster in bytes. It is remembered in one byte, so it counts modulo 256. -/
def size (cluster : List Char) : Nat := (String.ofList cluster).utf8ByteSize % 256

/-- Drops so many bytes from the front, unless that would cut a character in two. -/
def dropBytes? (count : Nat) : List Char → Option (List Char)
  | [] => some []
  | c :: rest =>
    if count = 0 then some (c :: rest)
    else if count < c.utf8Size then none
    else dropBytes? (count - c.utf8Size) rest

/-- Takes in one more cluster, unless it is a backspace that breaks the line. -/
def take? (typed : Typed) (cluster : List Char) : Option Typed :=
  if cluster = [backspace] then
    match typed.sizes with
    | [] => some typed
    | last :: sizes => (dropBytes? last typed.text).map (⟨·, sizes⟩)
  else some ⟨cluster.reverse ++ typed.text, size cluster :: typed.sizes⟩

/-- The line with its backspaces carried out, unless it is broken. -/
def edited? (line : String) : Option String :=
  ((Text.clusters line.toList).foldlM take? ⟨[], []⟩).map (String.ofList ·.text.reverse)

/-- The input of lines as they came. -/
def ofLines : List String → Input
  | [] => ⟨[], .complete⟩
  | line :: rest =>
    match edited? line with
    | some line =>
      let more := ofLines rest
      ⟨line :: more.lines, more.ending⟩
    | none => ⟨[], .broken⟩

/-- The input of a text. -/
def ofText (text : String) : Input := ofLines (Text.lines text)

theorem utf8ByteSize_cons (c : Char) (text : List Char) :
    (String.ofList (c :: text)).utf8ByteSize = c.utf8Size + (String.ofList text).utf8ByteSize := by
  rw [String.ofList_cons, String.utf8ByteSize_append, String.utf8ByteSize_singleton]

end Input

end PortfolioShell
