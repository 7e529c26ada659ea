import Mathlib.Data.List.Dedup
import Mathlib.Data.List.Pairwise
import PortfolioShell.History

/-!
# What a history remembers

A history remembers the lines that were pushed last, each once, in the order of their latest push.
It has no more than its entries to go by: a pushed line is taken out of its old place, put in front,
and what is then too much is dropped at the end. Yet all lines that were ever pushed would give
the same, since a line that was dropped comes back by a push only, and then to the front.
-/
namespace PortfolioShell.History

/-- What can be done to a history. -/
inductive Act where
  | push (line : String)
  | older (live : String)
  | newer
  | reset
deriving DecidableEq, Repr

/-- The history after an act. What browsing shows is left out. -/
def perform (history : History) : Act → History
  | .push line => history.push line
  | .older live => (history.older live).2
  | .newer => history.newer.2
  | .reset => history.reset

/-- The history after acts in order. -/
def performAll (history : History) (acts : List Act) : History := acts.foldl perform history

/-- The line that an act pushes. -/
def Act.pushed? : Act → Option String
  | push line => some line
  | _ => none

/-- The lines that acts push, the oldest first. -/
def pushedBy (acts : List Act) : List String := acts.filterMap Act.pushed?

/-- All lines that were pushed and are not blank, each once, by their latest push. -/
def mostRecent (pushed : List String) : List String :=
  (pushed.filter (!Text.isBlankText ·)).dedup.reverse

/-! ### The order of latest pushes -/

/-- One line was pushed after every push of another. -/
def IsLater (pushed : List String) (line other : String) : Prop :=
  ∃ before after, pushed = before ++ line :: after ∧ other ∉ line :: after

theorem IsLater.asymm {pushed : List String} {line other : String}
    (later : IsLater pushed line other) : ¬ IsLater pushed other line := by
  rintro ⟨before, after, parted, notLine⟩
  obtain ⟨before', after', parted', notOther⟩ := later
  -- one of the two pushes stands behind the other
  rcases List.append_eq_append_iff.mp (parted'.symm.trans parted) with
    ⟨between, _, rest⟩ | ⟨between, _, rest⟩
  · exact notOther (rest ▸ List.mem_append_right between List.mem_cons_self)
  · exact notLine (rest ▸ List.mem_append_right between List.mem_cons_self)

theorem IsLater.ne {pushed : List String} {line other : String}
    (later : IsLater pushed line other) : line ≠ other := by
  rintro rfl
  exact later.asymm later

theorem IsLater.cons {pushed : List String} {line other : String}
    (later : IsLater pushed line other) (first : String) :
    IsLater (first :: pushed) line other := by
  obtain ⟨before, after, rfl, absent⟩ := later
  exact ⟨first :: before, after, rfl, absent⟩

theorem IsLater.concat {pushed : List String} {line other last : String}
    (later : IsLater pushed line other) (different : other ≠ last) :
    IsLater (pushed ++ [last]) line other := by
  obtain ⟨before, after, rfl, absent⟩ := later
  refine ⟨before, after ++ [last], by simp, ?_⟩
  rw [← List.cons_append, List.mem_append, List.mem_singleton, not_or]
  exact ⟨absent, different⟩

/-- The distinct lines among the pushed ones that are not blank, the latest first. -/
structure IsRecency (pushed recent : List String) : Prop where
  mem_iff : ∀ line, line ∈ recent ↔ line ∈ pushed ∧ Text.isBlankText line = false
  ordered : recent.Pairwise (IsLater pushed)

namespace IsRecency
variable {pushed recent other : List String} {line : String}

theorem distinct (recency : IsRecency pushed recent) : recent.Nodup :=
  recency.ordered.imp IsLater.ne

theorem unique (recency : IsRecency pushed recent) (recency' : IsRecency pushed other) :
    other = recent := by
  have same : other.Perm recent := by
    rw [List.perm_ext_iff_of_nodup recency'.distinct recency.distinct]
    intro line
    rw [recency.mem_iff, recency'.mem_iff]
  exact same.eq_of_pairwise (fun _ _ _ _ later earlier => absurd earlier later.asymm)
    recency'.ordered recency.ordered

theorem push_blank (recency : IsRecency pushed recent) (blank : Text.isBlankText line = true) :
    IsRecency (pushed ++ [line]) recent := by
  have notBlank {old : String} (mem : old ∈ recent) : old ≠ line := by
    rintro rfl
    exact Bool.false_ne_true (((recency.mem_iff old).mp mem).2.symm.trans blank)
  constructor
  case mem_iff =>
    intro old
    rw [recency.mem_iff, List.mem_append, List.mem_singleton]
    constructor
    · rintro ⟨mem, told⟩
      exact ⟨Or.inl mem, told⟩
    · rintro ⟨mem | rfl, told⟩
      · exact ⟨mem, told⟩
      · exact absurd (told.symm.trans blank) Bool.false_ne_true
  case ordered =>
    refine recency.ordered.imp_of_mem ?_
    intro line old _ mem later
    exact later.concat (notBlank mem)

theorem push (recency : IsRecency pushed recent) (told : Text.isBlankText line = false) :
    IsRecency (pushed ++ [line]) (line :: recent.filter (· != line)) := by
  constructor
  case mem_iff =>
    intro old
    rw [List.mem_cons, List.mem_filter, recency.mem_iff, List.mem_append, List.mem_singleton,
      bne_iff_ne]
    constructor
    · rintro (rfl | ⟨⟨mem, written⟩, _⟩)
      · exact ⟨Or.inr rfl, told⟩
      · exact ⟨Or.inl mem, written⟩
    · rintro ⟨mem, written⟩
      by_cases same : old = line
      · exact Or.inl same
      · exact Or.inr ⟨⟨mem.resolve_right same, written⟩, same⟩
  case ordered =>
    rw [List.pairwise_cons]
    constructor
    · intro old mem
      have different : old ≠ line := bne_iff_ne.mp (List.mem_filter.mp mem).2
      exact ⟨pushed, [], rfl, by simpa using different⟩
    · refine (recency.ordered.filter _).imp_of_mem ?_
      intro line old _ mem later
      exact later.concat (bne_iff_ne.mp (List.mem_filter.mp mem).2)

end IsRecency

/-- The lines in the order of their latest push, the latest last. -/
theorem pairwise_dedup (lines : List String) :
    lines.dedup.Pairwise fun old line => IsLater lines line old := by
  induction lines with
  | nil => exact .nil
  | cons first rest ih =>
    have ih' := ih.imp fun later => IsLater.cons later first
    by_cases again : first ∈ rest
    · rw [List.dedup_cons_of_mem again]
      exact ih'
    · rw [List.dedup_cons_of_notMem again, List.pairwise_cons]
      refine ⟨fun line mem => ?_, ih'⟩
      obtain ⟨before, after, rfl⟩ := List.append_of_mem (List.mem_dedup.mp mem)
      exact ⟨first :: before, after, rfl, fun late => again (List.mem_append_right before late)⟩

/-- Lines that are left out do not change which of two others is later. -/
theorem IsLater.of_filter {keep : String → Bool} {pushed : List String} {line other : String}
    (kept : keep other = true) (later : IsLater (pushed.filter keep) line other) :
    IsLater pushed line other := by
  obtain ⟨before, after, parted, absent⟩ := later
  obtain ⟨before', rest, rfl, _, hrest⟩ := List.filter_eq_append_iff.mp parted
  obtain ⟨skipped, after', rfl, _, _, rfl⟩ := List.filter_eq_cons_iff.mp hrest
  refine ⟨before' ++ skipped, after', by simp, ?_⟩
  simpa [kept] using absent

theorem isRecency_mostRecent (pushed : List String) : IsRecency pushed (mostRecent pushed) := by
  constructor
  case mem_iff =>
    intro line
    rw [mostRecent, List.mem_reverse, List.mem_dedup, List.mem_filter, Bool.not_eq_true']
  case ordered =>
    rw [mostRecent, List.pairwise_reverse]
    refine (pairwise_dedup _).imp_of_mem ?_
    intro old line mem _ later
    exact later.of_filter (List.mem_filter.mp (List.mem_dedup.mp mem)).2

example : mostRecent ["ls", "pwd", " ", "ls", "cat a", "pwd"] = ["pwd", "cat a", "ls"] := by
  decide +kernel

/-! ### Pushing to a part of them -/

/-- Of lines that are cut off anyway nothing is missed when one moves to the front. -/
theorem take_push {recent : List String} (distinct : recent.Nodup) (size : Nat) (line : String) :
    (line :: (recent.take size).filter (· != line)).take size =
      (line :: recent.filter (· != line)).take size := by
  cases size with
  | zero => rfl
  | succ size =>
    rw [List.take_succ_cons, List.take_succ_cons, List.cons.injEq]
    refine ⟨rfl, ?_⟩
    induction recent generalizing size with
    | nil => rfl
    | cons first rest ih =>
      obtain ⟨absent, distinct⟩ := List.nodup_cons.mp distinct
      rw [List.take_succ_cons]
      by_cases same : first = line
      · -- the line leaves its place here, and is not there a second time
        subst same
        have kept {some : List String} (sub : some ⊆ rest) : some.filter (· != first) = some := by
          rw [List.filter_eq_self]
          intro old mem
          rw [bne_iff_ne]
          rintro rfl
          exact absent (sub mem)
        rw [List.filter_cons_of_neg (by simp), List.filter_cons_of_neg (by simp),
          kept (List.take_subset size rest), kept (List.Subset.refl rest), List.take_take,
          Nat.min_self]
      · rw [List.filter_cons_of_pos (by simpa using same),
          List.filter_cons_of_pos (by simpa using same)]
        cases size with
        | zero => rfl
        | succ size => rw [List.take_succ_cons, List.take_succ_cons, ih distinct]

/-! ### All acts -/

/-- A history remembers the latest of the pushed lines, and browses within them. -/
structure Remembers (size : Nat) (pushed : List String) (history : History) : Prop where
  capacity : history.capacity = size
  entries : history.entries = (mostRecent pushed).take size
  cursor : ∀ i, history.cursor = some i → i < history.entries.length

namespace Remembers
variable {size : Nat} {pushed : List String} {history : History}

theorem empty (size : Nat) : Remembers (max size 1) [] (History.empty size) := by
  refine ⟨rfl, List.take_nil.symm, ?_⟩
  rintro i ⟨⟩

/-- Browsing moves the cursor and the stash only. -/
theorem browse (remembers : Remembers size pushed history) {cursor : Option Nat}
    (within : ∀ i, cursor = some i → i < history.entries.length) (stash : String) :
    Remembers size pushed { history with cursor, stash } :=
  ⟨remembers.capacity, remembers.entries, within⟩

theorem reset (remembers : Remembers size pushed history) :
    Remembers size pushed history.reset := by
  refine remembers.browse ?_ ""
  rintro i ⟨⟩

theorem push (remembers : Remembers size pushed history) (line : String) :
    Remembers size (pushed ++ [line]) (history.push line) := by
  have recency := isRecency_mostRecent pushed
  have recency' := isRecency_mostRecent (pushed ++ [line])
  rw [History.push]
  split
  · rename_i blank
    have same : mostRecent (pushed ++ [line]) = mostRecent pushed :=
      (recency.push_blank blank).unique recency'
    refine ⟨remembers.capacity, ?_, ?_⟩
    · rw [same]
      exact remembers.entries
    · rintro i ⟨⟩
  · rename_i told
    rw [Bool.not_eq_true] at told
    have moved : mostRecent (pushed ++ [line]) =
        line :: (mostRecent pushed).filter (· != line) := (recency.push told).unique recency'
    refine ⟨remembers.capacity, ?_, ?_⟩
    · rw [moved, ← take_push recency.distinct, ← remembers.entries, ← remembers.capacity]
    · rintro i ⟨⟩

theorem older (remembers : Remembers size pushed history) (live : String) :
    Remembers size pushed (history.older live).2 := by
  rw [History.older]
  split
  · exact remembers
  · rename_i some
    have some : 0 < history.entries.length := by
      rw [List.length_pos_iff]
      simpa using some
    split
    · refine remembers.browse ?_ live
      rintro i ⟨⟩
      exact some
    · refine remembers.browse ?_ history.stash
      rintro i ⟨⟩
      exact Nat.lt_of_le_of_lt (Nat.min_le_right _ _) (Nat.sub_lt some Nat.one_pos)

theorem newer (remembers : Remembers size pushed history) :
    Remembers size pushed history.newer.2 := by
  rw [History.newer]
  split
  · exact remembers
  · refine remembers.browse ?_ history.stash
    rintro i ⟨⟩
  · rename_i i browsing
    refine remembers.browse ?_ history.stash
    rintro j ⟨⟩
    exact Nat.lt_of_succ_lt (remembers.cursor _ browsing)

theorem perform (remembers : Remembers size pushed history) (act : Act) :
    Remembers size (pushed ++ act.pushed?.toList) (history.perform act) := by
  cases act with
  | push line => exact remembers.push line
  | older live => exact (List.append_nil pushed).symm ▸ remembers.older live
  | newer => exact (List.append_nil pushed).symm ▸ remembers.newer
  | reset => exact (List.append_nil pushed).symm ▸ remembers.reset

theorem performAll (remembers : Remembers size pushed history) (acts : List Act) :
    Remembers size (pushed ++ pushedBy acts) (history.performAll acts) := by
  induction acts generalizing history pushed with
  | nil => exact (List.append_nil pushed).symm ▸ remembers
  | cons act rest ih =>
    have parted : pushed ++ pushedBy (act :: rest) =
        pushed ++ act.pushed?.toList ++ pushedBy rest := by
      cases pushes : act.pushed? <;> simp [pushedBy, pushes]
    rw [parted]
    exact ih (remembers.perform act)

end Remembers

/-- What a history of a capacity has come to. -/
structure RecencyLaw (capacity : Nat) (acts : List Act) (history : History) : Prop where
  /-- The entries are the first of all lines that were pushed and are not blank, -/
  entries : history.entries = (mostRecent (pushedBy acts)).take (max capacity 1)
  /-- each of which is there once, behind those that were pushed after it. -/
  recency : IsRecency (pushedBy acts) (mostRecent (pushedBy acts))
  distinct : history.entries.Nodup
  written : ∀ line ∈ history.entries, Text.isBlankText line = false
  /-- What is browsed is an entry. -/
  cursor : ∀ i, history.cursor = some i → i < history.entries.length

/-- However lines are pushed and entries browsed, a history remembers as many of the distinct lines
as it has room for, those that were pushed last. -/
theorem recencyLaw_of_acts (capacity : Nat) (acts : List Act) :
    RecencyLaw capacity acts ((History.empty capacity).performAll acts) := by
  have remembers := (Remembers.empty capacity).performAll acts
  rw [List.nil_append] at remembers
  have recency := isRecency_mostRecent (pushedBy acts)
  constructor
  case entries => exact remembers.entries
  case recency => exact recency
  case distinct =>
    rw [remembers.entries]
    exact recency.distinct.sublist (List.take_sublist _ _)
  case written =>
    intro line mem
    rw [remembers.entries] at mem
    exact ((recency.mem_iff line).mp (List.mem_of_mem_take mem)).2
  case cursor => exact remembers.cursor

end PortfolioShell.History
