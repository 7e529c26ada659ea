/-!
# Queues

Elements enter a queue at the back and leave it at the front. A queue is seen through the list of
its elements, front first. It keeps a second list for what entered lately, so that neither end has
to walk along the whole.
-/
namespace PortfolioShell

/-- A queue in two lists: those next to leave, and those that entered lately, newest first. -/
structure Queue (α : Type) where
  front : List α
  back : List α

namespace Queue
variable {α : Type}

/-- A queue without elements. -/
def empty : Queue α := ⟨[], []⟩

/-- The elements, front first. -/
def toList (queue : Queue α) : List α := queue.front ++ queue.back.reverse

/-- Puts an element at the back. -/
def push (queue : Queue α) (item : α) : Queue α := { queue with back := item :: queue.back }

/-- Takes the element at the front, if there is one. What entered lately moves to the front when
nothing else is left there. -/
def pop (queue : Queue α) : Option α × Queue α :=
  match queue.front with
  | item :: front => (some item, { queue with front })
  | [] =>
    match queue.back.reverse with
    | item :: front => (some item, ⟨front, []⟩)
    | [] => (none, empty)

/-- Takes the element at the back, if there is one. What has waited longest moves to the back when
nothing else is left there. -/
def popBack (queue : Queue α) : Option α × Queue α :=
  match queue.back with
  | item :: back => (some item, { queue with back })
  | [] =>
    match queue.front.reverse with
    | item :: back => (some item, ⟨[], back⟩)
    | [] => (none, empty)

/-- Takes so many elements at the back, or all there are, and lists them as they leave. -/
def takeBack (queue : Queue α) : Nat → List α
  | 0 => []
  | count + 1 =>
    match queue.popBack with
    | (some item, rest) => item :: rest.takeBack count
    | (none, _) => []

/-- The element at the back. -/
def last? (queue : Queue α) : Option α :=
  match queue.back with
  | item :: _ => some item
  | [] => queue.front.getLast?

/-- The element at an index counted from the front. Those that entered lately are counted from their
other end. -/
def get? (queue : Queue α) (index : Nat) : Option α :=
  if index < queue.front.length then queue.front[index]?
  else if index < queue.front.length + queue.back.length then
    queue.back[queue.front.length + queue.back.length - 1 - index]?
  else none

@[simp] theorem toList_empty : (empty : Queue α).toList = [] := rfl

@[simp] theorem toList_push (queue : Queue α) (item : α) :
    (queue.push item).toList = queue.toList ++ [item] := by
  simp [push, toList]

/-- The element that leaves is the first one. -/
@[simp] theorem fst_pop (queue : Queue α) : queue.pop.1 = queue.toList.head? := by
  obtain ⟨front, back⟩ := queue
  cases front with
  | cons => rfl
  | nil => simp only [pop, toList, List.nil_append]; split <;> simp_all

/-- The others stay, in order. -/
@[simp] theorem toList_snd_pop (queue : Queue α) : queue.pop.2.toList = queue.toList.tail := by
  obtain ⟨front, back⟩ := queue
  cases front with
  | cons => rfl
  | nil => simp only [pop, toList, List.nil_append]; split <;> simp_all [empty]

/-- The element that leaves at the back is the last one. -/
@[simp] theorem fst_popBack (queue : Queue α) : queue.popBack.1 = queue.toList.getLast? := by
  obtain ⟨front, back⟩ := queue
  cases back with
  | cons => simp [popBack, toList]
  | nil => simp only [popBack, toList]; split <;> simp_all

@[simp] theorem toList_snd_popBack (queue : Queue α) :
    queue.popBack.2.toList = queue.toList.dropLast := by
  obtain ⟨front, back⟩ := queue
  cases back with
  | cons => simp [popBack, toList]
  | nil => simp only [popBack, toList]; split <;> simp_all [empty]

@[simp] theorem last?_eq (queue : Queue α) : queue.last? = queue.toList.getLast? := by
  obtain ⟨front, back⟩ := queue
  cases back <;> simp [last?, toList]

/-- What leaves at the back comes out in reverse. -/
@[simp] theorem takeBack_eq (queue : Queue α) (count : Nat) :
    queue.takeBack count = queue.toList.reverse.take count := by
  induction count generalizing queue with
  | zero => rfl
  | succ count ih =>
    have last := queue.fst_popBack
    have others := queue.toList_snd_popBack
    rw [takeBack]
    split
    · rename_i item rest popped
      rw [popped] at last others
      obtain ⟨before, parted⟩ := List.getLast?_eq_some_iff.mp last.symm
      rw [ih, others, parted, List.dropLast_concat, List.reverse_concat, List.take_succ_cons]
    · rename_i rest popped
      rw [popped] at last
      rw [List.getLast?_eq_none_iff.mp last.symm, List.reverse_nil, List.take_nil]

@[simp] theorem get?_eq (queue : Queue α) (index : Nat) :
    queue.get? index = queue.toList[index]? := by
  rw [get?, toList, List.getElem?_append]
  split
  · rfl
  · split
    · have within : index - queue.front.length < queue.back.length := by omega
      rw [List.getElem?_reverse within]
      congr 1
      omega
    · have beyond : queue.back.reverse.length ≤ index - queue.front.length := by
        rw [List.length_reverse]
        omega
      rw [List.getElem?_eq_none beyond]

end Queue

example : ((((Queue.empty.push 1).push 2).pop.2).push 3).toList = [2, 3] := by decide

end PortfolioShell
