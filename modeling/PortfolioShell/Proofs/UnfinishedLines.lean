import PortfolioShell.Completion
import PortfolioShell.Proofs.Pieces

/-!
# Unfinished lines

The words of an unfinished line are those before the one that is being typed, and that one, which is
empty when the line is blank or ends in a blank. A line that puts a word without blanks behind the
same earlier words has the same words but for the last.
-/
namespace PortfolioShell

namespace Text

/-- A text that is one word. -/
def IsWord (text : String) : Prop := IsStretch isBlank text

instance (text : String) : Decidable (IsWord text) :=
  @instDecidableAnd _ _ inferInstance (List.decidableBAll _ text.toList)

theorem isWord_of_mem_words {text word : String} (h : word ∈ words text) : IsWord word :=
  isStretch_of_mem h

theorem words_append_blank (before after : String) :
    words (before ++ " " ++ after) = words before ++ words after :=
  stretches_append_cut isBlank (by rfl) (by decide) before after

theorem words_of_isWord {word : String} (h : IsWord word) : words word = [word] :=
  stretches_of_isStretch h

theorem isWord_append {before word : String} (uncut : ∀ c ∈ before.toList, isBlank c = false)
    (h : IsWord word) : IsWord (before ++ word) := by
  refine ⟨?_, ?_⟩
  · intro empty
    exact h.1 (String.append_eq_empty_iff.mp empty).2
  · intro c hc
    rw [String.toList_append, List.mem_append] at hc
    exact hc.elim (uncut c) (h.2 c)

theorem words_join {texts : List String} (h : ∀ t ∈ texts, IsWord t) :
    words (join " " texts) = texts :=
  stretches_join isBlank (by rfl) (by decide) h

theorem words_then_blank (text : String) : words (text ++ " ") = words text := by
  simpa [words, runs, pieces] using words_append_blank text ""

/-- Whether a text ends in a blank. -/
def EndsBlank (text : String) : Prop := ∃ c, text.toList.getLast? = some c ∧ isBlank c = true

theorem endsBlank_iff {text : String} :
    EndsBlank text ↔ (text.toList.getLast?.any isBlank) = true := by
  rw [EndsBlank, Option.any_eq_true]

instance (text : String) : Decidable (EndsBlank text) := decidable_of_iff _ endsBlank_iff.symm

theorem endsBlank_then_blank (text : String) : EndsBlank (text ++ " ") :=
  ⟨' ', by simp, by decide⟩

theorem not_endsBlank_append {word : String} (h : IsWord word) (before : String) :
    ¬ EndsBlank (before ++ word) := by
  rintro ⟨c, last, blank⟩
  have written : word.toList ≠ [] := by simpa using h.1
  have own := List.getLast?_eq_some_getLast written
  rw [String.toList_append, List.getLast?_append, own] at last
  obtain rfl := Option.some.inj last
  rw [h.2 _ (List.getLast_mem written)] at blank
  cases blank

end Text

namespace UnfinishedLine

/-- The words before the one that is being typed. -/
def earlier (line : String) : List String := (partialWords line).dropLast

/-- The word that is being typed. -/
def typed (line : String) : String := (partialWords line).getLast?.getD ""

theorem exists_last_of_words {line : String} (told : Text.words line ≠ []) :
    ∃ c, line.toList.getLast? = some c := by
  have written : line.toList ≠ [] := by
    intro none
    apply told
    rw [String.toList_eq_nil_iff.mp none]
    rfl
  exact ⟨_, List.getLast?_eq_some_getLast written⟩

/-- A word that has not been begun stands behind a blank, or behind nothing. -/
theorem partialWords_eq_words (line : String) :
    partialWords line = Text.words line ++
      if Text.words line = [] ∨ Text.EndsBlank line then [""] else [] := by
  by_cases none : Text.words line = []
  · simp [partialWords, none]
  · obtain ⟨c, last⟩ := exists_last_of_words none
    have ends : Text.EndsBlank line ↔ Text.isBlank c = true := by
      rw [Text.endsBlank_iff, last]
      rfl
    by_cases blank : Text.isBlank c = true
    · simp [partialWords, ends, last, blank]
    · simp [partialWords, ends, last, blank, none]

/-- A word is being typed, or the next one has not been begun. -/
theorem partialWords_cases (line : String) :
    partialWords line = Text.words line ++ [""] ∨
      (partialWords line = Text.words line ∧ Text.words line ≠ [] ∧ ¬ Text.EndsBlank line) := by
  rw [partialWords_eq_words]
  by_cases begun : Text.words line = [] ∨ Text.EndsBlank line
  · rw [if_pos begun]
    exact Or.inl rfl
  · rw [if_neg begun, List.append_nil]
    exact Or.inr ⟨rfl, not_or.mp begun⟩

theorem partialWords_eq (line : String) : partialWords line = earlier line ++ [typed line] := by
  have nonempty : partialWords line ≠ [] := by
    rcases partialWords_cases line with h | ⟨h, hw, _⟩
    · simp [h]
    · rwa [h]
  rw [earlier, typed, List.getLast?_eq_some_getLast nonempty]
  exact (List.dropLast_concat_getLast nonempty).symm

theorem isWord_of_mem_earlier {line word : String} (h : word ∈ earlier line) :
    Text.IsWord word := by
  rcases partialWords_cases line with hw | ⟨hw, _, _⟩
  · have told : word ∈ Text.words line := by simpa [earlier, hw] using h
    exact Text.isWord_of_mem_words told
  · have told : word ∈ Text.words line := hw ▸ List.dropLast_subset _ h
    exact Text.isWord_of_mem_words told

theorem typed_uncut (line : String) : ∀ c ∈ (typed line).toList, Text.isBlank c = false := by
  rcases partialWords_cases line with hw | ⟨hw, nonempty, _⟩
  · simp [typed, hw]
  · have hmem : typed line ∈ Text.words line := by
      rw [typed, hw, List.getLast?_eq_some_getLast nonempty]
      exact List.getLast_mem nonempty
    exact (Text.isWord_of_mem_words hmem).2

/-- A word behind the earlier words is the last one. -/
theorem words_behind (line : String) {word : String} (h : Text.IsWord word) :
    Text.words (Text.join " " (earlier line) ++ " " ++ word) = earlier line ++ [word] := by
  rw [Text.words_append_blank, Text.words_join fun _ => isWord_of_mem_earlier,
    Text.words_of_isWord h]

/-- A line with another last word is another line, and so is one whose last word is closed. -/
theorem ne_of_words {line other word : String} (h : Text.words other = earlier line ++ [word])
    (changed : Text.EndsBlank other ∨ (typed line).length < word.length) : other ≠ line := by
  rintro rfl
  have split := partialWords_eq other
  rcases partialWords_cases other with closed | ⟨opened, _, notBlank⟩
  · -- the earlier words are all words there are
    have all : earlier other = Text.words other := by simp [earlier, closed]
    rw [all] at h
    simpa using congrArg List.length h
  · rw [opened, h] at split
    have same : word = typed other := by simpa using split
    rcases changed with blank | longer
    · exact notBlank blank
    · rw [same] at longer
      omega

end UnfinishedLine

end PortfolioShell
