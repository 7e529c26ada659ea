import Mathlib.Data.List.Pairwise
import PortfolioShell.Text.Matcher

/-!
# Where a pattern stands in a line

A line is a list of characters, and a match is given by positions in it. A position parts the
characters before it from those behind it, so it is told by the number of characters before it.
Counted like this, what is found of a pattern are the leftmost places without overlap where its
folding stands in the folding of the line: each place but for those that a place before it hides.
-/
namespace PortfolioShell.Text

/-! ### Places -/

/-- Whether a pattern stands in a text behind the first `i` characters. -/
def StandsAt (pattern text : List Char) (i : Nat) : Prop :=
  i ≤ text.length ∧ pattern <+: text.drop i

instance (pattern text : List Char) (i : Nat) : Decidable (StandsAt pattern text i) :=
  inferInstanceAs (Decidable (_ ∧ _))

/-- The places, in order, that are reached from left to right if each that is reached hides those
less than `size` behind it. -/
structure IsLeftmost (occurs : Nat → Prop) (size : Nat) (places : List Nat) : Prop where
  ordered : places.Pairwise (· < ·)
  picked : ∀ i, i ∈ places ↔ occurs i ∧ ∀ j ∈ places, j < i → j + size ≤ i

namespace IsLeftmost

variable {occurs : Nat → Prop} {size : Nat} {places : List Nat}

/-- Wherever there is something to pick, something is picked. -/
theorem ne_nil_iff (h : IsLeftmost occurs size places) : places ≠ [] ↔ ∃ i, occurs i := by
  constructor
  · intro some
    obtain ⟨i, mem⟩ := List.exists_mem_of_ne_nil places some
    exact ⟨i, ((h.picked i).mp mem).1⟩
  · rintro ⟨i, stands⟩ rfl
    have mem := (h.picked i).mpr ⟨stands, fun j mem => absurd mem List.not_mem_nil⟩
    exact List.not_mem_nil mem

theorem nil (none : ∀ i, ¬ occurs i) : IsLeftmost occurs size [] := by
  constructor
  case ordered => exact .nil
  case picked =>
    intro i
    constructor
    · intro mem
      cases mem
    · intro h
      exact absurd h.1 (none i)

/-- What a place must be free of moves with it. -/
theorem free_shift (places : List Nat) (size k i : Nat) :
    (∀ j ∈ places.map (· + k), j < i + k → j + size ≤ i + k) ↔
      ∀ j ∈ places, j < i → j + size ≤ i := by
  rw [List.forall_mem_map]
  constructor
  · intro free j mem less
    have := free j mem (by omega)
    omega
  · intro free j mem less
    have := free j mem (by omega)
    omega

theorem pairwise_shift (h : IsLeftmost occurs size places) (k : Nat) :
    (places.map (· + k)).Pairwise (· < ·) := by
  apply List.Pairwise.map _ _ h.ordered
  intro i j less
  omega

/-- If there is nothing at the first place, the places are those of the rest. -/
theorem passOver (absent : ¬ occurs 0) (h : IsLeftmost (fun i => occurs (i + 1)) size places) :
    IsLeftmost occurs size (places.map (· + 1)) := by
  constructor
  case ordered => exact h.pairwise_shift 1
  case picked =>
    intro i
    cases i with
    | zero => simp [absent]
    | succ i =>
      have shifted : i + 1 ∈ places.map (· + 1) ↔ i ∈ places := by simp
      rw [shifted, h.picked, free_shift]

/-- If there is something at the first place, the others are those behind it. -/
theorem take (stands : occurs 0) (long : 0 < size)
    (h : IsLeftmost (fun i => occurs (i + size)) size places) :
    IsLeftmost occurs size (0 :: places.map (· + size)) := by
  have behind (i : Nat) : i + size ∈ 0 :: places.map (· + size) ↔ i ∈ places := by
    simp
    omega
  constructor
  case ordered =>
    apply List.Pairwise.cons _ (h.pairwise_shift size)
    intro j mem
    obtain ⟨i, _, rfl⟩ := List.mem_map.mp mem
    omega
  case picked =>
    intro i
    by_cases first : i = 0
    · subst first
      simp [stands]
    by_cases hidden : i < size
    · -- the first place hides it
      constructor
      · intro mem
        rcases List.mem_cons.mp mem with here | there
        · exact absurd here first
        · obtain ⟨j, _, rfl⟩ := List.mem_map.mp there
          omega
      · rintro ⟨_, free⟩
        have := free 0 List.mem_cons_self (Nat.pos_of_ne_zero first)
        omega
    · obtain ⟨i, rfl⟩ : ∃ k, i = k + size := ⟨i - size, by omega⟩
      rw [behind, h.picked, List.forall_mem_cons, free_shift]
      constructor
      · rintro ⟨there, free⟩
        exact ⟨there, fun _ => by omega, free⟩
      · rintro ⟨there, _, free⟩
        exact ⟨there, free⟩

end IsLeftmost

section Places
variable {pattern text : List Char}

theorem standsAt_zero : StandsAt pattern text 0 ↔ pattern <+: text := by
  simp [StandsAt]

theorem standsAt_add {i size : Nat} (fits : size ≤ text.length) :
    StandsAt pattern text (i + size) ↔ StandsAt pattern (text.drop size) i := by
  rw [StandsAt, StandsAt, List.drop_drop, List.length_drop, Nat.add_comm size i]
  constructor
  · rintro ⟨within, begun⟩
    exact ⟨by omega, begun⟩
  · rintro ⟨within, begun⟩
    exact ⟨by omega, begun⟩

theorem exists_standsAt_iff : (∃ i, StandsAt pattern text i) ↔ pattern <:+: text := by
  constructor
  · rintro ⟨i, _, begun⟩
    exact begun.isInfix.trans (List.drop_suffix i text).isInfix
  · rintro ⟨before, after, rfl⟩
    refine ⟨before.length, ?_, ?_⟩
    · rw [List.append_assoc, List.length_append]
      omega
    · rw [List.append_assoc, List.drop_left]
      exact List.prefix_append pattern after

end Places

/-! ### Positions -/

section Positions
variable {line : String} {p q : line.Pos}

/-- The characters before a position. -/
def before (p : line.Pos) : List Char := (line.sliceTo p).copy.toList

/-- The characters behind a position. -/
def behind (p : line.Pos) : List Char := (line.sliceFrom p).copy.toList

/-- How many characters stand before a position. -/
def place (p : line.Pos) : Nat := (before p).length

theorem before_of_splits {first last : String} (h : p.Splits first last) :
    before p = first.toList := by
  rw [before, h.copy_sliceTo_eq]

theorem behind_of_splits {first last : String} (h : p.Splits first last) :
    behind p = last.toList := by
  rw [behind, h.copy_sliceFrom_eq]

theorem before_append_behind (p : line.Pos) : before p ++ behind p = line.toList := by
  rw [before, behind, ← String.toList_append, ← p.splits.eq_append]

theorem before_startPos : before line.startPos = [] :=
  before_of_splits line.splits_startPos

theorem place_le (p : line.Pos) : place p ≤ line.toList.length := by
  rw [place, ← before_append_behind p, List.length_append]
  exact Nat.le_add_right _ _

theorem drop_place (p : line.Pos) : line.toList.drop (place p) = behind p := by
  rw [← before_append_behind p, place, List.drop_left]

/-- What stands between two positions comes between what stands before and behind them. -/
theorem before_eq_append (h : p ≤ q) : before q = before p ++ (line.extract p q).toList := by
  obtain ⟨first, last, splits, splits'⟩ := String.copy_slice_eq_iff_splits.mp
    ⟨h, (String.extract_eq_copy_slice p q h).symm⟩
  rw [before_of_splits splits, before_of_splits splits', String.toList_append]

theorem behind_eq_append (h : p ≤ q) : behind p = (line.extract p q).toList ++ behind q := by
  have whole := before_append_behind p
  rw [← before_append_behind q, before_eq_append h, List.append_assoc] at whole
  exact List.append_cancel_left whole

theorem place_eq_add (h : p ≤ q) : place q = place p + (line.extract p q).toList.length := by
  rw [place, place, before_eq_append h, List.length_append]

theorem eq_of_before_eq (h : before p = before q) : p = q :=
  p.splits.pos_eq (String.toList_inj.mp h ▸ q.splits)

/-- Something stands between two positions, unless they are the same. -/
theorem extract_ne_nil (h : p < q) : (line.extract p q).toList ≠ [] := by
  intro nothing
  have same := before_eq_append (Std.le_of_lt h)
  rw [nothing, List.append_nil] at same
  rw [eq_of_before_eq same] at h
  exact Std.lt_irrefl h

theorem place_lt (h : p < q) : place p < place q := by
  rw [place_eq_add (Std.le_of_lt h)]
  exact Nat.lt_add_of_pos_right (List.length_pos_iff.mpr (extract_ne_nil h))

theorem place_lt_iff : place p < place q ↔ p < q := by
  refine ⟨fun less => Std.not_le.mp fun le => ?_, place_lt⟩
  have := place_eq_add le
  omega

theorem place_le_iff : place p ≤ place q ↔ p ≤ q := by
  rw [← Nat.not_lt, place_lt_iff, Std.not_lt]

theorem place_inj : place p = place q ↔ p = q := by
  constructor
  · intro same
    exact Std.le_antisymm (place_le_iff.mp (Nat.le_of_eq same))
      (place_le_iff.mp (Nat.le_of_eq same.symm))
  · rintro rfl
    rfl

/-- There is a position behind any number of characters. -/
theorem exists_place {i : Nat} (within : i ≤ line.toList.length) : ∃ p : line.Pos, place p = i := by
  have parts : line = String.ofList (line.toList.take i) ++ String.ofList (line.toList.drop i) := by
    rw [← String.ofList_append, List.take_append_drop, String.ofList_toList]
  refine ⟨.ofEqAppend parts, ?_⟩
  rw [place, before_of_splits (String.Pos.splits_ofEqAppend parts), String.toList_ofList,
    List.length_take, Nat.min_eq_left within]

end Positions

/-! ### What is found -/

section Found
variable {fold : Char → Char} {pattern line : String} {found : List (Match line)}

/-- A pattern stands where something alike begins. -/
theorem standsAt_place_iff {p : line.Pos} :
    StandsAt (pattern.toList.map fold) (line.toList.map fold) (place p) ↔
      ∃ q, p ≤ q ∧ Alike fold (line.extract p q) pattern := by
  rw [StandsAt, List.length_map, and_iff_right (place_le p), ← List.map_drop, drop_place]
  constructor
  · intro begun
    have fits : pattern.toList.length ≤ (behind p).length := by simpa using begun.length_le
    have whole := congrArg List.length (before_append_behind p)
    rw [List.length_append] at whole
    obtain ⟨q, there⟩ : ∃ q : line.Pos, place q = place p + pattern.toList.length :=
      exists_place (by rw [place]; omega)
    have le : p ≤ q := place_le_iff.mp (by omega)
    refine ⟨q, le, ?_⟩
    have size := place_eq_add le
    rw [behind_eq_append le, List.map_append] at begun
    have same : pattern.toList.map fold <+: (line.extract p q).toList.map fold := by
      refine List.prefix_of_prefix_length_le begun (List.prefix_append _ _) ?_
      simp only [List.length_map]
      omega
    exact (same.eq_of_length (by simp only [List.length_map]; omega)).symm
  · rintro ⟨q, le, alike⟩
    rw [behind_eq_append le, List.map_append, alike]
    exact List.prefix_append _ _

theorem length_of_alike {text : String} (alike : Alike fold text pattern) :
    text.toList.length = pattern.length := by
  have same := congrArg List.length alike
  rw [List.length_map, List.length_map] at same
  rw [same, String.length_toList]

theorem place_stop {m : Match line} (alike : Alike fold m.text pattern) :
    place m.stop = place m.start + pattern.length := by
  rw [place_eq_add m.ordered, ← length_of_alike alike]
  rfl

/-- Of two matches the one that begins first ends before the other begins. -/
theorem stop_le_of_lt (finds : FindsAlike fold pattern found) {m n : Match line} (hm : m ∈ found)
    (hn : n ∈ found) (less : m.start < n.start) : m.stop ≤ n.start := by
  have onward := finds.apart.imp fun {a b} apart (_ : a.start < b.start) => apart.2
  have backward := finds.apart.imp fun {a b} apart (back : b.start < a.start) =>
    show b.stop ≤ a.start from absurd (Std.lt_trans apart.1 back) Std.lt_irrefl
  exact onward.forall_of_forall_of_flip (fun _ _ loop => absurd loop Std.lt_irrefl) backward hm hn
    less

/-- What is found are the leftmost places, -/
theorem isLeftmost_of_finds (finds : FindsAlike fold pattern found) :
    IsLeftmost (StandsAt (pattern.toList.map fold) (line.toList.map fold)) pattern.length
      (found.map (place ·.start)) := by
  constructor
  case ordered => exact finds.apart.map _ fun _ _ apart => place_lt apart.1
  case picked =>
    intro i
    rw [List.forall_mem_map, List.mem_map]
    constructor
    · rintro ⟨m, hm, rfl⟩
      refine ⟨standsAt_place_iff.mpr ⟨m.stop, m.ordered, finds.alike m hm⟩, fun n hn less => ?_⟩
      rw [← place_stop (finds.alike n hn)]
      exact place_le_iff.mpr (stop_le_of_lt finds hn hm (place_lt_iff.mp less))
    · rintro ⟨stands, free⟩
      obtain ⟨p, rfl⟩ := exists_place (by simpa using stands.1)
      obtain ⟨q, le, alike⟩ := standsAt_place_iff.mp stands
      obtain ⟨m, hm, here | ⟨less, within⟩⟩ := finds.leftmost p q le alike
      · exact ⟨m, hm, by rw [here]⟩
      · have := free m hm (place_lt less)
        have := place_lt within
        rw [place_stop (finds.alike m hm)] at this
        omega

/-- and whoever finds just these finds everything that is alike. -/
theorem finds_of_isLeftmost (alike : ∀ m ∈ found, Alike fold m.text pattern)
    (law : IsLeftmost (StandsAt (pattern.toList.map fold) (line.toList.map fold)) pattern.length
      (found.map (place ·.start))) : FindsAlike fold pattern found := by
  have member {m : Match line} (hm : m ∈ found) : place m.start ∈ found.map (place ·.start) :=
    List.mem_map_of_mem hm
  constructor
  case alike => exact alike
  case apart =>
    have ordered := List.pairwise_map.mp law.ordered
    refine ordered.imp_of_mem fun {m n} hm hn less => ⟨place_lt_iff.mp less, ?_⟩
    have free := ((law.picked _).mp (member hn)).2 _ (member hm) less
    exact place_le_iff.mp (by rw [place_stop (alike m hm)]; exact free)
  case leftmost =>
    intro p q le same
    have stands := standsAt_place_iff.mpr ⟨q, le, same⟩
    by_cases picked : place p ∈ found.map (place ·.start)
    · obtain ⟨m, hm, here⟩ := List.mem_map.mp picked
      exact ⟨m, hm, Or.inl (place_inj.mp here)⟩
    · -- Else something hides this place, and that reaches into it.
      rw [law.picked, and_iff_right stands] at picked
      simp only [not_forall, exists_prop] at picked
      obtain ⟨j, mem, less, reaches⟩ := picked
      obtain ⟨m, hm, rfl⟩ := List.mem_map.mp mem
      refine ⟨m, hm, Or.inr ⟨place_lt_iff.mp less, place_lt_iff.mp ?_⟩⟩
      rw [place_stop (alike m hm)]
      exact Nat.not_le.mp reaches

end Found

end PortfolioShell.Text
