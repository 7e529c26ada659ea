import PortfolioShell.Proofs.Passwords

/-!
# Browsing the history

The arrow keys walk over a row of texts: the live input, and behind it the entries from the newest
to the oldest. A walk stays in the row, and what is shown is the text it has come to. The entries
stay as they are; the live input is kept in the stash while an entry is shown, so it is there again
whenever the walk comes back to it.
-/
namespace PortfolioShell

/-- A key that goes to an older line or to a newer one. -/
inductive Arrow where
  | up
  | down
deriving DecidableEq, Repr

namespace Arrow

/-- What happens to a session when a key is pressed. -/
def event : Arrow → Event
  | up => .historyUp
  | down => .historyDown

/-- The place in the row that is nearest to a number. The live input has the place −1, and the
entries have their indices. -/
def bounded (size : Nat) (place : Int) : Int := max (-1) (min place (size - 1))

/-- The place that a key leads to. -/
def move (size : Nat) (place : Int) : Arrow → Int
  | up => bounded size (place + 1)
  | down => bounded size (place - 1)

/-- The place that keys lead to from the live input. -/
def walk (size : Nat) (arrows : List Arrow) : Int := arrows.foldl (move size) (-1)

theorem move_of_empty (place : Int) (arrow : Arrow) : arrow.move 0 place = -1 := by
  cases arrow <;> simp only [move, bounded] <;> omega

theorem move_up_live {size : Nat} (some : 0 < size) : up.move size (-1) = 0 := by
  simp only [move, bounded]
  omega

theorem move_up_entry {size i : Nat} (within : i < size) :
    up.move size i = (min (i + 1) (size - 1) : Nat) := by
  simp only [move, bounded]
  omega

theorem move_down_live (size : Nat) : down.move size (-1) = -1 := by
  simp only [move, bounded]
  omega

theorem move_down_newest {size : Nat} (some : 0 < size) : down.move size (0 : Nat) = -1 := by
  simp only [move, bounded]
  omega

theorem move_down_entry {size i : Nat} (within : i + 1 < size) :
    down.move size (i + 1 : Nat) = (i : Nat) := by
  simp only [move, bounded]
  omega

end Arrow

/-! ### Histories -/

/-- What a key recalls while an input is shown. -/
def History.press (history : History) (input : String) : Arrow → Option String × History
  | .up => history.older input
  | .down => history.newer

/-- What is shown at a place: the live input, or an entry while the live input is stashed. -/
inductive History.IsAt (history : History) (live : String) : Int → String → Prop
  | resting (cursor : history.cursor = none) : IsAt history live (-1) live
  | recalled {line : String} (i : Nat) (cursor : history.cursor = some i)
      (found : history.entries[i]? = some line) (stashed : history.stash = live) :
      IsAt history live i line

namespace History.IsAt
variable {history : History} {live shown : String} {place : Int}

theorem older (here : history.IsAt live place shown) :
    (history.older shown).2.IsAt live (Arrow.up.move history.entries.length place)
      ((history.older shown).1.getD shown) := by
  rw [History.older]
  split
  · rename_i nothing
    rw [List.isEmpty_iff] at nothing
    cases here with
    | resting cursor =>
      rw [nothing, List.length_nil, Arrow.move_of_empty]
      exact .resting cursor
    | recalled i cursor found stashed => simp [nothing] at found
  · rename_i filled
    have filled : 0 < history.entries.length := by
      rw [List.length_pos_iff]
      simpa using filled
    cases here with
    | resting cursor =>
      have newest := List.getElem?_eq_getElem filled
      rw [cursor, Arrow.move_up_live filled]
      dsimp only
      rw [newest]
      exact .recalled 0 rfl newest rfl
    | recalled i cursor found stashed =>
      -- at the oldest entry the next one is the same again
      obtain ⟨within, _⟩ := List.getElem?_eq_some_iff.mp found
      have inside : min (i + 1) (history.entries.length - 1) < history.entries.length := by omega
      have next := List.getElem?_eq_getElem inside
      rw [cursor, Arrow.move_up_entry within]
      dsimp only
      rw [next]
      exact .recalled _ rfl next stashed

theorem newer (here : history.IsAt live place shown) :
    history.newer.2.IsAt live (Arrow.down.move history.entries.length place)
      (history.newer.1.getD shown) := by
  rw [History.newer]
  cases here with
  | resting cursor =>
    rw [cursor, Arrow.move_down_live]
    exact .resting cursor
  | recalled i cursor found stashed =>
    obtain ⟨within, _⟩ := List.getElem?_eq_some_iff.mp found
    rw [cursor]
    cases i with
    | zero =>
      rw [Arrow.move_down_newest within, stashed]
      exact .resting rfl
    | succ i =>
      have next := List.getElem?_eq_getElem (Nat.lt_of_succ_lt within)
      rw [Arrow.move_down_entry within]
      dsimp only
      rw [next]
      exact .recalled i rfl next stashed

theorem press (here : history.IsAt live place shown) (arrow : Arrow) :
    (history.press shown arrow).2.IsAt live (arrow.move history.entries.length place)
      ((history.press shown arrow).1.getD shown) := by
  cases arrow with
  | up => exact here.older
  | down => exact here.newer

/-- What is shown at a place is told by the place alone. -/
theorem shown_of_place (here : history.IsAt live place shown) :
    (place = -1 ∧ shown = live ∧ history.cursor = none) ∨
      ∃ i : Nat, place = i ∧ history.entries[i]? = some shown ∧ history.cursor = some i := by
  cases here with
  | resting cursor => exact Or.inl ⟨rfl, rfl, cursor⟩
  | recalled i cursor found _ => exact Or.inr ⟨i, rfl, found, cursor⟩

end History.IsAt

/-! ### Sessions -/

namespace Session
variable {σ : Type}

/-- Whether no full-screen program runs. -/
def IsTyping (s : Session σ) : Prop := ∀ program, s.mode ≠ .running program

theorem IsTyping.step_arrow [Backend σ] {s : Session σ} (typing : s.IsTyping) (arrow : Arrow) :
    s.step arrow.event = s.showRecalled (s.history.press s.input arrow) := by
  cases mode : s.mode with
  | running program => exact absurd mode (typing program)
  | _ => cases arrow <;> simp only [Arrow.event, step, historyUp, historyDown, mode] <;> rfl

theorem untyped_step_arrow [Backend σ] (s : Session σ) (arrow : Arrow) :
    (s.step arrow.event).untyped = s.untyped := by
  cases arrow with
  | up => exact s.untyped_historyUp
  | down => exact s.untyped_historyDown

/-- A session that was browsed from another and has come to a place. -/
structure Browsed (s after : Session σ) (place : Int) : Prop where
  here : after.history.IsAt s.input place after.input
  rest : after.untyped = s.untyped

namespace Browsed
variable {s after : Session σ} {place : Int}

theorem entries_eq (browsed : Browsed s after place) :
    after.history.entries = s.history.entries := by
  have same := congrArg (fun t : Session σ => t.history.entries) browsed.rest
  exact same

theorem isTyping (browsed : Browsed s after place) (typing : s.IsTyping) : after.IsTyping := by
  intro program running
  have same := congrArg Session.mode browsed.rest
  exact typing program (same.symm.trans running)

variable [Backend σ]

theorem press (browsed : Browsed s after place) (typing : s.IsTyping) (arrow : Arrow) :
    Browsed s (after.step arrow.event) (arrow.move s.history.entries.length place) := by
  refine ⟨?_, (after.untyped_step_arrow arrow).trans browsed.rest⟩
  rw [(browsed.isTyping typing).step_arrow, ← browsed.entries_eq]
  exact browsed.here.press arrow

/-- A walk is followed from wherever the session has come to, by induction on what is left of it. -/
theorem press_all (browsed : Browsed s after place) (typing : s.IsTyping) (arrows : List Arrow) :
    Browsed s (after.run (arrows.map Arrow.event))
      (arrows.foldl (Arrow.move s.history.entries.length) place) := by
  induction arrows generalizing after place with
  | nil => exact browsed
  | cons arrow rest ih => exact ih (browsed.press typing arrow)

end Browsed

variable [Backend σ] {s : Session σ}

/-- What a session shows after a walk from its live input to a place. -/
structure BrowsingLaw (s after : Session σ) (place : Int) : Prop where
  /-- The place is that of the live input or of an entry. -/
  within : place = -1 ∨ ∃ i : Nat, place = i ∧ i < s.history.entries.length
  live : place = -1 → after.input = s.input ∧ after.history.cursor = none
  recalled : ∀ i : Nat, place = i →
    s.history.entries[i]? = some after.input ∧ after.history.cursor = some i
  entries : after.history.entries = s.history.entries
  /-- Besides the input and the place in the history only suggestions may have gone. -/
  rest : { after with input := s.input, suggestions := s.suggestions, history := s.history } = s

/-- However often the arrow keys go up and down from the live input, the session shows what stands
at the place that they have come to, and loses nothing. -/
theorem browsing_of_arrows (typing : s.IsTyping) (live : s.history.cursor = none)
    (arrows : List Arrow) : BrowsingLaw s (s.run (arrows.map Arrow.event))
      (Arrow.walk s.history.entries.length arrows) := by
  have start : Browsed s s (-1) := ⟨.resting live, rfl⟩
  have browsed : Browsed s _ (Arrow.walk s.history.entries.length arrows) :=
    start.press_all typing arrows
  generalize s.run (arrows.map Arrow.event) = after at browsed ⊢
  generalize Arrow.walk s.history.entries.length arrows = place at browsed ⊢
  have entries := browsed.entries_eq
  constructor
  case within =>
    rcases browsed.here.shown_of_place with ⟨atLive, _⟩ | ⟨i, atEntry, found, _⟩
    · exact Or.inl atLive
    · obtain ⟨within, _⟩ := List.getElem?_eq_some_iff.mp found
      exact Or.inr ⟨i, atEntry, entries ▸ within⟩
  case live =>
    rintro rfl
    rcases browsed.here.shown_of_place with ⟨_, shown, cursor⟩ | ⟨i, atEntry, _⟩
    · exact ⟨shown, cursor⟩
    · omega
  case recalled =>
    rintro i rfl
    rcases browsed.here.shown_of_place with ⟨atLive, _⟩ | ⟨j, atEntry, found, cursor⟩
    · omega
    · obtain rfl : i = j := Int.ofNat.inj atEntry
      exact ⟨entries ▸ found, cursor⟩
  case entries => exact entries
  case rest =>
    exact congrArg (fun t : Session σ =>
      { t with input := s.input, suggestions := s.suggestions, history := s.history }) browsed.rest

/-- A line half typed is left and found again, beyond both ends of the row. -/
theorem browsing_of_both_ends :
    let s := ofBuiltin.run [.submitLine "whoami", .submitLine "pwd", .setInput "cat qu"]
    let arrows := [Arrow.up, .up, .up, .down, .down, .down]
    s.IsTyping ∧ s.history.cursor = none ∧
      (s.run ((arrows.take 4).map Arrow.event)).input = "pwd" ∧
      (s.run (arrows.map Arrow.event)).input = "cat qu" := by
  intro s arrows
  have typing : s.IsTyping := by
    have normal : s.mode = .normal := by decide +kernel
    intro program
    rw [normal]
    exact Mode.noConfusion
  have live : s.history.cursor = none := by decide +kernel
  have entries : s.history.entries = ["pwd", "whoami"] := by decide +kernel
  have newest := (browsing_of_arrows typing live (arrows.take 4)).recalled 0 (by rw [entries]; rfl)
  have home := (browsing_of_arrows typing live arrows).live (by rw [entries]; rfl)
  rw [entries] at newest
  exact ⟨typing, live, (Option.some.inj newest.1).symm, home.1⟩

end Session

end PortfolioShell
