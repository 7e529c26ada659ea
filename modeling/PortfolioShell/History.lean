import PortfolioShell.Text.Words

/-!
# Input history

Submitted lines, most recent first and without repetition, that can be browsed from the live
input. Browsing keeps a cursor into the entries and a stash of the live input; recalled entries
are copies, so the entries change only when a line is pushed.
-/
namespace PortfolioShell

/-- `cursor` is `none` while the live input is edited; `stash` is that input while it is not. -/
structure History where
  entries : List String
  cursor : Option Nat
  stash : String
  capacity : Nat
deriving DecidableEq

namespace History

/-- No entries. A capacity of zero counts as one. -/
def empty (capacity : Nat) : History := ⟨[], none, "", max capacity 1⟩

/-- The number of lines a session remembers. -/
def sessionCapacity : Nat := 50

/-- Ends browsing: the next step back starts from the newest entry. -/
def reset (history : History) : History := { history with cursor := none, stash := "" }

/-- Ends browsing and puts a line in front, out of its old place if it has one. Blank lines are
not recorded. -/
def push (history : History) (line : String) : History :=
  if Text.isBlankText line then history.reset
  else { history.reset with
    entries := (line :: history.entries.filter (· != line)).take history.capacity }

/-- Steps to the next older entry and stays at the oldest. The first step stashes `live`. -/
def older (history : History) (live : String) : Option String × History :=
  if history.entries.isEmpty then (none, history)
  else match history.cursor with
    | none => (history.entries[0]?, { history with cursor := some 0, stash := live })
    | some i =>
      let next := min (i + 1) (history.entries.length - 1)
      (history.entries[next]?, { history with cursor := some next })

/-- Steps to the next newer entry, and from the newest back to the stashed input. -/
def newer (history : History) : Option String × History :=
  match history.cursor with
  | none => (none, history)
  | some 0 => (some history.stash, { history with cursor := none })
  | some (i + 1) => (history.entries[i]?, { history with cursor := some i })

end History

end PortfolioShell
