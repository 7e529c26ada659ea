import Mathlib.Data.List.Pairwise
import PortfolioShell.Completion

/-!
# What candidates begin with in common

Of sorted candidates only the first and the last are compared. Whatever these two begin with, all
between them begin with too, since texts are in the order of their first difference. So the answer is
the longest common start of all candidates, and it depends neither on their order nor on how often
one of them is there.
-/
namespace PortfolioShell.Completion

/-- A text that all texts begin with, and that begins with every other such text. -/
structure IsCommonStart (texts : List String) (start : String) : Prop where
  begins : ∀ text ∈ texts, start.toList <+: text.toList
  longest : ∀ other : String, (∀ text ∈ texts, other.toList <+: text.toList) →
    other.toList <+: start.toList

/-- Texts have one longest common start at most, which their order and repetitions do not touch. -/
theorem IsCommonStart.unique {texts others : List String} {start otherStart : String}
    (h : IsCommonStart texts start) (h' : IsCommonStart others otherStart)
    (same : ∀ text, text ∈ others ↔ text ∈ texts) : otherStart = start := by
  have shorter : otherStart.toList <+: start.toList := by
    apply h.longest
    intro text mem
    exact h'.begins text ((same text).mpr mem)
  have longer : start.toList <+: otherStart.toList := by
    apply h'.longest
    intro text mem
    exact h.begins text ((same text).mp mem)
  have size : otherStart.toList.length = start.toList.length :=
    Nat.le_antisymm shorter.length_le longer.length_le
  exact String.toList_inj.mp (shorter.eq_of_length size)

/-! ### Sorted texts -/

theorem sorted_perm (texts : List String) : (sorted texts).Perm texts :=
  List.mergeSort_perm texts _

theorem inOrder_iff (a b : String) : (!decide (b < a)) = true ↔ a ≤ b := by
  rw [Bool.not_eq_true', decide_eq_false_iff_not, String.not_lt]

theorem sorted_pairwise (texts : List String) : (sorted texts).Pairwise (· ≤ ·) := by
  have trans : ∀ a b c : String, !decide (b < a) → !decide (c < b) → !decide (c < a) := by
    intro a b c hab hbc
    exact (inOrder_iff a c).mpr
      (String.le_trans ((inOrder_iff a b).mp hab) ((inOrder_iff b c).mp hbc))
  have total : ∀ a b : String, (!decide (b < a) || !decide (a < b)) = true := by
    intro a b
    rw [Bool.or_eq_true, inOrder_iff, inOrder_iff]
    exact String.le_total a b
  exact (List.pairwise_mergeSort trans total texts).imp (inOrder_iff _ _).mp

/-! ### The first and the last of sorted texts -/

theorem sharedStart_begins (first last : List Char) :
    sharedStart first last <+: first ∧ sharedStart first last <+: last := by
  induction first generalizing last with
  | nil => simp [sharedStart]
  | cons c rest ih =>
    cases last with
    | nil => simp [sharedStart]
    | cons d more =>
      rw [sharedStart]
      split
      · rename_i same
        obtain ⟨left, right⟩ := ih more
        exact ⟨List.cons_prefix_cons.mpr ⟨rfl, left⟩, List.cons_prefix_cons.mpr ⟨same, right⟩⟩
      · exact ⟨List.nil_prefix, List.nil_prefix⟩

/-- Two texts share every text that both begin with. -/
theorem begins_sharedStart {start first last : List Char} (hfirst : start <+: first)
    (hlast : start <+: last) : start <+: sharedStart first last := by
  induction start generalizing first last with
  | nil => exact List.nil_prefix
  | cons c rest ih =>
    obtain ⟨first, rfl⟩ := hfirst
    obtain ⟨last, rfl⟩ := hlast
    rw [List.cons_append, List.cons_append, sharedStart, if_pos rfl]
    apply List.cons_prefix_cons.mpr
    exact ⟨rfl, ih (List.prefix_append rest first) (List.prefix_append rest last)⟩

/-- What lies between two texts in order begins with all that both of them begin with. -/
theorem begins_of_between {start low text high : List Char}
    (above : ¬ List.Lex (· < ·) text low) (below : ¬ List.Lex (· < ·) high text)
    (hlow : start <+: low) (hhigh : start <+: high) : start <+: text := by
  induction start generalizing low text high with
  | nil => exact List.nil_prefix
  | cons c rest ih =>
    obtain ⟨low, rfl⟩ := hlow
    obtain ⟨high, rfl⟩ := hhigh
    rw [List.cons_append] at above below
    cases text with
    | nil => exact absurd .nil above
    | cons d more =>
      -- the first character lies between `c` and `c`, and behind it the order is that of the rests
      have notLess : ¬ d < c := fun less => above (.rel less)
      have notMore : ¬ c < d := fun more => below (.rel more)
      obtain rfl : c = d := Char.le_antisymm (Char.not_lt.mp notLess) (Char.not_lt.mp notMore)
      apply List.cons_prefix_cons.mpr
      refine ⟨rfl, ih ?_ ?_ (List.prefix_append rest low) (List.prefix_append rest high)⟩
      · exact fun less => above (.cons less)
      · exact fun more => below (.cons more)

theorem isCommonStart_of_pairwise {texts : List String} (some : texts ≠ [])
    (ordered : texts.Pairwise (· ≤ ·)) : IsCommonStart texts (commonStart texts) := by
  have told : commonStart texts =
      String.ofList (sharedStart (texts.head some).toList (texts.getLast some).toList) := by
    rw [commonStart, List.head?_eq_some_head some, List.getLast?_eq_some_getLast some]
  rw [told]
  constructor
  case begins =>
    intro text mem
    have above : texts.head some ≤ text := ordered.rel_head mem
    have below : text ≤ texts.getLast some := ordered.rel_getLast mem
    obtain ⟨left, right⟩ :=
      sharedStart_begins (texts.head some).toList (texts.getLast some).toList
    rw [String.toList_ofList]
    exact begins_of_between (String.not_lt.mpr above) (String.not_lt.mpr below) left right
  case longest =>
    intro other begun
    rw [String.toList_ofList]
    exact begins_sharedStart (begun _ (List.head_mem some)) (begun _ (List.getLast_mem some))

/-! ### Texts in any order -/

theorem mem_sorted_iff {texts : List String} {text : String} :
    text ∈ sorted texts ↔ text ∈ texts := (sorted_perm texts).mem_iff

theorem isCommonStart_sorted {texts : List String} (some : texts ≠ []) :
    IsCommonStart texts (commonStart (sorted texts)) := by
  have someSorted : sorted texts ≠ [] := by
    intro none
    have perm := sorted_perm texts
    rw [none] at perm
    exact some perm.nil_eq.symm
  have law := isCommonStart_of_pairwise someSorted (sorted_pairwise texts)
  constructor
  case begins =>
    intro text mem
    exact law.begins text (mem_sorted_iff.mpr mem)
  case longest =>
    intro other begun
    apply law.longest
    intro text mem
    exact begun text (mem_sorted_iff.mp mem)

/-- The first and the last of the sorted candidates share the longest common start of all of them,
and candidates that are the same but for order and repetition have the same one. -/
theorem commonStart_of_sorted {texts : List String} (some : texts ≠ []) :
    IsCommonStart texts (commonStart (sorted texts)) ∧
      ∀ others : List String, (∀ text, text ∈ others ↔ text ∈ texts) →
        commonStart (sorted others) = commonStart (sorted texts) := by
  refine ⟨isCommonStart_sorted some, ?_⟩
  intro others same
  have someOthers : others ≠ [] := by
    rintro rfl
    obtain ⟨text, mem⟩ := List.exists_mem_of_ne_nil texts some
    exact List.not_mem_nil ((same text).mpr mem)
  exact (isCommonStart_sorted some).unique (isCommonStart_sorted someOthers) same

/-- A name that is there twice, and one that begins another. -/
theorem commonStart_of_repeated :
    let texts := ["naïves", "naïf", "naïve", "naïf"]
    texts ≠ [] ∧ IsCommonStart texts "naï" ∧
      (∀ text, text ∈ ["naïf", "naïve", "naïves"] ↔ text ∈ texts) ∧
      commonStart (sorted ["naïf", "naïve", "naïves"]) = "naï" ∧
      commonStart (sorted texts) = "naï" := by
  intro texts
  have some : texts ≠ [] := List.cons_ne_nil _ _
  obtain ⟨law, free⟩ := commonStart_of_sorted some
  have same : ∀ text, text ∈ ["naïf", "naïve", "naïves"] ↔ text ∈ texts := by
    intro text
    simp only [texts, List.mem_cons, List.not_mem_nil, or_false]
    grind
  have inOrder : sorted ["naïf", "naïve", "naïves"] = ["naïf", "naïve", "naïves"] :=
    List.mergeSort_of_pairwise (by decide +kernel)
  have start : commonStart (sorted ["naïf", "naïve", "naïves"]) = "naï" := by
    rw [inOrder]
    decide +kernel
  have whole : commonStart (sorted texts) = "naï" := (free _ same).symm.trans start
  exact ⟨some, whole ▸ law, same, start, whole⟩

end PortfolioShell.Completion
