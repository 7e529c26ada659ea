import PortfolioShell.Queue

/-!
# Ring buffers

A ring holds the most recent elements, oldest first, up to a capacity of at least one. Pushing
onto a full ring evicts the oldest element. The elements stand in a queue and are counted along
the way. What an operation does is said by what it does to their list, `Ring.items`.
-/
namespace PortfolioShell

/-- Elements with their number and the most that are kept. -/
structure Ring (α : Type) where
  queue : Queue α
  size : Nat
  capacity : Nat
  size_eq : size = queue.toList.length
  size_le : size ≤ capacity
  capacity_pos : 0 < capacity

namespace Ring
variable {α : Type}

/-- The elements, oldest first. -/
def items (ring : Ring α) : List α := ring.queue.toList

/-- A ring without elements. A capacity of zero counts as one. -/
def empty (capacity : Nat) : Ring α :=
  ⟨.empty, 0, max capacity 1, rfl, by omega, by omega⟩

/-- Appends an element where there is room. -/
def append (ring : Ring α) (item : α) (room : ring.size < ring.capacity) : Ring α :=
  { ring with
    queue := ring.queue.push item
    size := ring.size + 1
    size_eq := by simp [ring.size_eq]
    size_le := room }

/-- Appends an element in place of the oldest one. -/
def replaceOldest (ring : Ring α) (item : α) (full : ring.size = ring.capacity) :
    Option α × Ring α :=
  let popped := ring.queue.pop
  (popped.1, { ring with
    queue := popped.2.push item
    size_eq := by
      have := ring.size_eq
      have := ring.capacity_pos
      simp [popped]
      omega })

/-- Appends an element and tells which one was evicted for it. -/
def push (ring : Ring α) (item : α) : Option α × Ring α :=
  if full : ring.size = ring.capacity then ring.replaceOldest item full
  else (none, ring.append item (Nat.lt_of_le_of_ne ring.size_le full))

/-- The ring after a push. -/
def insert (ring : Ring α) (item : α) : Ring α := (ring.push item).2

/-- Appends elements in order. -/
def extend (ring : Ring α) (items : List α) : Ring α := items.foldl insert ring

/-- The element at an index counted from the oldest. -/
def get? (ring : Ring α) (index : Nat) : Option α := ring.queue.get? index

/-- The newest element. -/
def last? (ring : Ring α) : Option α := ring.queue.last?

/-- So many of the newest elements, or all there are, newest first. -/
def newestFirst (ring : Ring α) (count : Nat) : List α := ring.queue.takeBack count

/-- Whether there are no elements. -/
def isEmpty (ring : Ring α) : Bool := ring.size == 0

/-- Drops every element and keeps the capacity. -/
def clear (ring : Ring α) : Ring α := empty ring.capacity

/-- The same newest elements in a ring of another capacity. -/
def resize (ring : Ring α) (capacity : Nat) : Ring α := (empty capacity).extend ring.items

/-! ### The elements after an operation -/

theorem length_items (ring : Ring α) : ring.items.length = ring.size := ring.size_eq.symm

theorem length_items_le (ring : Ring α) : ring.items.length ≤ ring.capacity := by
  rw [length_items]; exact ring.size_le

@[simp] theorem items_empty (capacity : Nat) : (empty capacity : Ring α).items = [] := rfl

@[simp] theorem capacity_empty (capacity : Nat) :
    (empty capacity : Ring α).capacity = max capacity 1 := rfl

@[simp] theorem items_clear (ring : Ring α) : ring.clear.items = [] := rfl

/-- Clearing keeps the capacity. -/
@[simp] theorem capacity_clear (ring : Ring α) : ring.clear.capacity = ring.capacity := by
  have := ring.capacity_pos
  simp only [clear, capacity_empty]
  omega

/-- Only a full ring evicts, and it evicts the oldest element. -/
theorem fst_push (ring : Ring α) (item : α) :
    (ring.push item).1 = if ring.size = ring.capacity then ring.items.head? else none := by
  unfold push
  split
  · simp [replaceOldest, items]
  · rfl

/-- A full ring gives up its oldest element for the new one. -/
theorem items_insert (ring : Ring α) (item : α) :
    (ring.insert item).items =
      (if ring.size = ring.capacity then ring.items.tail else ring.items) ++ [item] := by
  unfold insert push
  split
  · simp [replaceOldest, items]
  · simp [append, items]

@[simp] theorem capacity_insert (ring : Ring α) (item : α) :
    (ring.insert item).capacity = ring.capacity := by
  unfold insert push
  split <;> rfl

@[simp] theorem capacity_extend (ring : Ring α) (items : List α) :
    (ring.extend items).capacity = ring.capacity := by
  induction items generalizing ring with
  | nil => rfl
  | cons item rest ih => exact (ih (ring.insert item)).trans (ring.capacity_insert item)

@[simp] theorem capacity_resize (ring : Ring α) (capacity : Nat) :
    (ring.resize capacity).capacity = max capacity 1 :=
  (empty capacity).capacity_extend ring.items

/-- What a ring keeps beside a new element is its newest part. -/
theorem exists_kept (ring : Ring α) (item : α) :
    ∃ kept, kept <:+ ring.items ∧ (ring.insert item).items = kept ++ [item] := by
  rw [items_insert]
  split
  · exact ⟨_, List.tail_suffix _, rfl⟩
  · exact ⟨_, List.suffix_refl _, rfl⟩

theorem items_insert_of_nil {ring : Ring α} (none : ring.items = []) (item : α) :
    (ring.insert item).items = [item] := by
  obtain ⟨kept, suffix, hinsert⟩ := ring.exists_kept item
  obtain rfl : kept = [] := List.suffix_nil.mp (none ▸ suffix)
  exact hinsert

/-- The last elements of a list, as many as a number says if there are so many. -/
def newest (n : Nat) (items : List α) : List α := items.drop (items.length - n)

theorem newest_append (n : Nat) (items more : List α) :
    newest n (newest n items ++ more) = newest n (items ++ more) := by
  have front : newest n items ++ more = (items ++ more).drop (items.length - n) :=
    (List.drop_append_of_le_length (by omega)).symm
  rw [front, newest, newest, List.drop_drop]
  congr 1
  simp only [List.length_drop, List.length_append]
  omega

theorem items_insert_eq_newest (ring : Ring α) (item : α) :
    (ring.insert item).items = newest ring.capacity (ring.items ++ [item]) := by
  have size := ring.length_items
  have le := ring.size_le
  rw [items_insert, newest, List.length_append, List.length_singleton]
  split
  · rename_i full
    have pos := ring.capacity_pos
    have drops : ring.items.length + 1 - ring.capacity = 1 := by omega
    rw [drops, List.drop_append_of_le_length (by omega), List.drop_one]
  · rename_i room
    have drops : ring.items.length + 1 - ring.capacity = 0 := by omega
    rw [drops, List.drop_zero]

/-- A ring keeps the newest of what it held and what it got. -/
theorem items_extend (ring : Ring α) (items : List α) :
    (ring.extend items).items = newest ring.capacity (ring.items ++ items) := by
  induction items generalizing ring with
  | nil =>
    have size := ring.length_items_le
    simp [extend, newest, Nat.sub_eq_zero_of_le size]
  | cons item rest ih =>
    have later := ih (ring.insert item)
    rw [items_insert_eq_newest, capacity_insert, newest_append, List.append_assoc] at later
    exact later

theorem items_extend_suffix (ring : Ring α) (items : List α) :
    (ring.extend items).items <:+ ring.items ++ items := by
  rw [items_extend]
  exact List.drop_suffix _ _

theorem items_resize_suffix (ring : Ring α) (capacity : Nat) :
    (ring.resize capacity).items <:+ ring.items :=
  (empty capacity).items_extend_suffix ring.items

@[simp] theorem get?_eq (ring : Ring α) (index : Nat) : ring.get? index = ring.items[index]? :=
  Queue.get?_eq ring.queue index

@[simp] theorem newestFirst_eq (ring : Ring α) (count : Nat) :
    ring.newestFirst count = ring.items.reverse.take count :=
  Queue.takeBack_eq ring.queue count

@[simp] theorem last?_eq (ring : Ring α) : ring.last? = ring.items.getLast? :=
  Queue.last?_eq ring.queue

theorem isEmpty_eq (ring : Ring α) : ring.isEmpty = ring.items.isEmpty := by
  rw [isEmpty, ← length_items]
  cases ring.items <;> rfl

end Ring

example : ((Ring.empty 2).extend [1, 2, 3]).items = [2, 3] := by decide

end PortfolioShell
