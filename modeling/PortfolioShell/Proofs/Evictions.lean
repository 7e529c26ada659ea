import Mathlib.Data.List.ReduceOption
import PortfolioShell.Ring

/-!
# What leaves a ring

The elements pushed to a ring since it was last cleared form a line, and the ring is a window at the
end of it. Once the window is full, every push moves it on by one element and gives back the one
that it leaves behind. So what the pushes gave back, followed by what the ring holds, is the whole
line. An extension pushes one element after the other and forgets what these pushes give back. A
ledger beside the ring remembers it.
-/
namespace PortfolioShell.Ring
variable {α : Type}

/-- What changes a ring. -/
inductive Call (α : Type) where
  | push (item : α)
  | extend (items : List α)
  | clear
deriving DecidableEq, Repr

/-- The ring after a call. -/
def call (ring : Ring α) : Call α → Ring α
  | .push item => (ring.push item).2
  | .extend items => ring.extend items
  | .clear => ring.clear

/-- The ring after calls in order. -/
def callAll (ring : Ring α) (calls : List (Call α)) : Ring α := calls.foldl call ring

/-- A ring with all elements pushed to it since it was last cleared, and what these pushes gave
back. -/
structure Ledger (α : Type) where
  ring : Ring α
  pushed : List α
  returned : List (Option α)

namespace Ledger

/-- The ledger of a new ring. -/
def opened (capacity : Nat) : Ledger α := ⟨.empty capacity, [], []⟩

/-- Records a push. -/
def push (ledger : Ledger α) (item : α) : Ledger α :=
  let (evicted, ring) := ledger.ring.push item
  ⟨ring, ledger.pushed ++ [item], ledger.returned ++ [evicted]⟩

/-- Records a call, an extension as the pushes of its elements. A clearing begins a new line. -/
def call (ledger : Ledger α) : Call α → Ledger α
  | .push item => ledger.push item
  | .extend items => items.foldl push ledger
  | .clear => ⟨ledger.ring.clear, [], []⟩

/-- Records calls in order. -/
def callAll (ledger : Ledger α) (calls : List (Call α)) : Ledger α := calls.foldl call ledger

theorem ring_call (ledger : Ledger α) (c : Call α) : (ledger.call c).ring = ledger.ring.call c := by
  cases c with
  | push item => rfl
  | extend items => exact (List.foldl_hom ring fun _ _ => rfl).symm
  | clear => rfl

/-- The ring in a ledger is the one that the calls are made on. -/
theorem ring_callAll (ledger : Ledger α) (calls : List (Call α)) :
    (ledger.callAll calls).ring = ledger.ring.callAll calls :=
  (List.foldl_hom ring fun ledger c => (ledger.ring_call c).symm).symm

end Ledger

/-! ### A line that goes through a window -/

/-- So many free places with a line behind them. -/
def queued (places : Nat) (items : List α) : List (Option α) :=
  List.replicate places none ++ items.map some

/-- What comes out of a window of so many places while a line goes in: nothing as long as there are
free places, and then the element that went in so many steps before. -/
def lagged (places : Nat) (items : List α) : List (Option α) :=
  (queued places items).take items.length

theorem length_queued (places : Nat) (items : List α) :
    (queued places items).length = places + items.length := by
  simp [queued]

theorem queued_concat (places : Nat) (items : List α) (item : α) :
    queued places (items ++ [item]) = queued places items ++ [some item] := by
  simp [queued]

theorem getElem?_queued {places index : Nat} {items : List α}
    (within : index < places + items.length) :
    (queued places items)[index]? =
      some (if index < places then none else items[index - places]?) := by
  rw [queued, List.getElem?_append, List.length_replicate]
  split
  · rename_i free
    rw [List.getElem?_replicate_of_lt free]
  · have taken : index - places < items.length := by omega
    rw [List.getElem?_map, List.getElem?_eq_getElem taken]
    rfl

/-- One more element brings out the one that went in so many steps before. -/
theorem lagged_concat {places : Nat} (pos : 0 < places) (items : List α) (item : α) :
    lagged places (items ++ [item]) = lagged places items ++
      [if items.length < places then none else items[items.length - places]?] := by
  have within : items.length < places + items.length := by omega
  have before : items.length < (queued places items).length := by rwa [length_queued]
  rw [lagged, lagged, queued_concat, List.length_append, List.length_singleton, List.take_add_one,
    List.take_append_of_le_length (Nat.le_of_lt before), List.getElem?_append_left before,
    getElem?_queued within]
  rfl

theorem reduceOption_lagged (places : Nat) (items : List α) :
    (lagged places items).reduceOption = items.take (items.length - places) := by
  rw [lagged, queued, List.take_append, List.reduceOption_append, List.take_replicate,
    List.reduceOption_replicate_none, List.nil_append, List.length_replicate, ← List.map_take,
    List.reduceOption, List.filterMap_map]
  exact List.filterMap_some

/-- What has come out and what is still inside make up the line. -/
theorem reduceOption_lagged_append (places : Nat) (items : List α) :
    (lagged places items).reduceOption ++ newest places items = items := by
  rw [reduceOption_lagged, newest, List.take_append_drop]

/-! ### A ledger after calls -/

/-- The ring is a window of so many places at the end of the line, and gave back what left it. -/
structure Balanced (places : Nat) (ledger : Ledger α) : Prop where
  capacity : ledger.ring.capacity = places
  items : ledger.ring.items = newest places ledger.pushed
  returned : ledger.returned = lagged places ledger.pushed

namespace Balanced
variable {places : Nat} {ledger : Ledger α}

theorem places_pos (h : Balanced places ledger) : 0 < places :=
  h.capacity ▸ ledger.ring.capacity_pos

theorem size (h : Balanced places ledger) :
    ledger.ring.size = min ledger.pushed.length places := by
  rw [← length_items, h.items, newest, List.length_drop]
  omega

/-- The ring is full when there are as many elements as places, and the oldest of the window is the
one that went in so many steps before. -/
theorem fst_push (h : Balanced places ledger) (item : α) :
    (ledger.ring.push item).1 =
      if ledger.pushed.length < places then none
      else ledger.pushed[ledger.pushed.length - places]? := by
  rw [Ring.fst_push, h.size, h.capacity, h.items, newest, List.head?_drop]
  by_cases room : ledger.pushed.length < places
  · have notFull : min ledger.pushed.length places ≠ places := by omega
    rw [if_pos room, if_neg notFull]
  · have full : min ledger.pushed.length places = places := by omega
    rw [if_neg room, if_pos full]

theorem push (h : Balanced places ledger) (item : α) : Balanced places (ledger.push item) where
  capacity := (ledger.ring.capacity_insert item).trans h.capacity
  items := by
    have inserted := ledger.ring.items_insert_eq_newest item
    rw [h.capacity, h.items, newest_append] at inserted
    exact inserted
  returned := by
    have given : (ledger.push item).returned = ledger.returned ++ [(ledger.ring.push item).1] := rfl
    rw [given, h.returned, h.fst_push, ← lagged_concat h.places_pos]
    rfl

theorem call (h : Balanced places ledger) (c : Call α) : Balanced places (ledger.call c) := by
  cases c with
  | push item => exact h.push item
  | extend items =>
    rw [Ledger.call]
    -- each element finds the ledger that the pushes before it have left in balance
    induction items generalizing ledger with
    | nil => exact h
    | cons item rest ih => exact ih (h.push item)
  | clear => exact ⟨(capacity_clear _).trans h.capacity, List.drop_nil.symm, rfl⟩

theorem callAll (h : Balanced places ledger) (calls : List (Call α)) :
    Balanced places (ledger.callAll calls) := by
  induction calls generalizing ledger with
  | nil => exact h
  | cons c rest ih => exact ih (h.call c)

end Balanced

theorem balanced_opened (capacity : Nat) :
    Balanced (max capacity 1) (Ledger.opened capacity : Ledger α) :=
  ⟨rfl, List.drop_nil.symm, rfl⟩

/-- What a ring of a requested capacity holds, has given back and shows. -/
structure WindowLaw (capacity : Nat) (ledger : Ledger α) : Prop where
  /-- There is room for as many elements as requested, and for one at least. -/
  room : ledger.ring.capacity = max capacity 1
  /-- The last of the line are there, oldest first, as many as there is room for. -/
  window : ledger.ring.items = newest (max capacity 1) ledger.pushed
  /-- Those before them have been given back, in order, -/
  conserved : ledger.returned.reduceOption ++ ledger.ring.items = ledger.pushed
  /-- each by the push that came as many pushes later as there is room for elements. -/
  returned : ledger.returned = lagged (max capacity 1) ledger.pushed
  /-- The elements are counted, and there are never too many. -/
  count : ledger.ring.size = ledger.ring.items.length
  size : ledger.ring.size = min ledger.pushed.length (max capacity 1)
  bounded : ledger.ring.size ≤ ledger.ring.capacity
  empty : ledger.ring.isEmpty = true ↔ ledger.pushed = []
  /-- The same elements are found by index, -/
  get : ∀ index, ledger.ring.get? index = ledger.ring.items[index]?
  /-- at the end, -/
  last : ledger.ring.last? = ledger.ring.items.getLast?
  /-- and on the way back from there, however far it goes. -/
  back : ∀ count, ledger.ring.newestFirst count = ledger.ring.items.reverse.take count

theorem Balanced.windowLaw {capacity : Nat} {ledger : Ledger α}
    (h : Balanced (max capacity 1) ledger) : WindowLaw capacity ledger where
  room := h.capacity
  window := h.items
  conserved := by
    rw [h.returned, h.items, reduceOption_lagged_append]
  returned := h.returned
  count := ledger.ring.length_items.symm
  size := h.size
  bounded := ledger.ring.size_le
  empty := by
    have size := h.size
    rw [isEmpty_eq, List.isEmpty_iff, ← List.length_eq_zero_iff, ← List.length_eq_zero_iff,
      length_items]
    omega
  get := ledger.ring.get?_eq
  last := ledger.ring.last?_eq
  back := ledger.ring.newestFirst_eq

/-- A ring of any requested capacity that is pushed to, extended and cleared in any order holds the
last of the elements it got since it was last cleared, and all others have been given back. -/
theorem windowLaw_of_calls (capacity : Nat) (calls : List (Call α)) :
    let ledger := (Ledger.opened capacity).callAll calls
    ledger.ring = (empty capacity).callAll calls ∧ WindowLaw capacity ledger := by
  intro ledger
  have balanced : Balanced (max capacity 1) ledger := (balanced_opened capacity).callAll calls
  exact ⟨Ledger.ring_callAll _ calls, balanced.windowLaw⟩

example :
    let ledger := (Ledger.opened 2).callAll [.push 1, .clear, .push 2, .extend [3, 4], .push 5]
    ledger.returned = [none, none, some 2, some 3] ∧ ledger.ring.items = [4, 5] := by
  decide

end PortfolioShell.Ring
