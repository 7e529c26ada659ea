import PortfolioShell.Text.Words

/-!
# Cutting texts

A cut parts a text: what stands before it and what stands after it are cut apart from each other.
No cut stands within a piece, and a text without cuts is one piece. So texts without cuts that are
joined at a cut come apart again, as words do at blanks and segments at slashes.
-/
namespace PortfolioShell.Text

variable {isCut : Char → Bool}

/-- A text has no cut, or it parts at its last one. -/
theorem uncut_or_last_cut (isCut : Char → Bool) (text : List Char) :
    (∀ c ∈ text, isCut c = false) ∨ ∃ before c after, text = before ++ c :: after ∧
      isCut c = true ∧ ∀ d ∈ after, isCut d = false := by
  induction text with
  | nil => simp
  | cons c rest ih =>
    rcases ih with uncut | ⟨before, d, after, rfl, cut, uncut⟩
    · by_cases hc : isCut c = true
      · exact Or.inr ⟨[], c, rest, rfl, hc, uncut⟩
      · refine Or.inl fun d hd => ?_
        rcases List.mem_cons.mp hd with rfl | hd
        · simpa using hc
        · exact uncut d hd
    · exact Or.inr ⟨c :: before, d, after, rfl, cut, uncut⟩

theorem pieces_append_cut (before after : List Char) {c : Char} (cut : isCut c = true) :
    pieces isCut (before ++ c :: after) = pieces isCut before ++ pieces isCut after := by
  induction before with
  | nil => simp [pieces, cut]
  | cons d rest ih =>
    obtain ⟨piece, more, hp⟩ := List.exists_cons_of_ne_nil (pieces_ne_nil isCut rest)
    by_cases hd : isCut d = true
    · simp [pieces, hd, ih]
    · simp [pieces, hd, ih, hp]

theorem pieces_of_uncut {text : List Char} (uncut : ∀ c ∈ text, isCut c = false) :
    pieces isCut text = [text] := by
  induction text with
  | nil => rfl
  | cons c rest ih =>
    have hc : isCut c = false := uncut c List.mem_cons_self
    have hrest := ih fun d hd => uncut d (List.mem_cons_of_mem c hd)
    simp [pieces, hc, hrest]

theorem uncut_of_mem_pieces {text piece : List Char} (h : piece ∈ pieces isCut text) :
    ∀ c ∈ piece, isCut c = false := by
  induction text generalizing piece with
  | nil =>
    have hp : piece = [] := by simpa [pieces] using h
    simp [hp]
  | cons c rest ih =>
    obtain ⟨first, more, hp⟩ := List.exists_cons_of_ne_nil (pieces_ne_nil isCut rest)
    by_cases hc : isCut c = true
    · simp only [pieces, hc, if_true, List.mem_cons] at h
      rcases h with rfl | h
      · simp
      · exact ih h
    · simp only [pieces, hc, hp, Bool.false_eq_true, if_false, List.mem_cons] at h
      rcases h with rfl | h
      · intro d hd
        rcases List.mem_cons.mp hd with rfl | hd
        · simpa using hc
        · exact ih (by simp [hp]) d hd
      · exact ih (by simp [hp, h])

theorem runs_append_cut (before after : List Char) {c : Char} (cut : isCut c = true) :
    runs isCut (before ++ c :: after) = runs isCut before ++ runs isCut after := by
  rw [runs, pieces_append_cut before after cut, List.filter_append]
  rfl

theorem runs_of_uncut {text : List Char} (uncut : ∀ c ∈ text, isCut c = false)
    (nonempty : text ≠ []) : runs isCut text = [text] := by
  simp [runs, pieces_of_uncut uncut, nonempty]

/-- Runs are what stands between cuts, and something stands there. -/
theorem mem_runs {text run : List Char} (h : run ∈ runs isCut text) :
    run ≠ [] ∧ ∀ c ∈ run, isCut c = false := by
  obtain ⟨hp, hne⟩ := List.mem_filter.mp h
  exact ⟨by simpa using hne, uncut_of_mem_pieces hp⟩

theorem runs_eq_nil {text : List Char} (cut : ∀ c ∈ text, isCut c = true) :
    runs isCut text = [] := by
  induction text with
  | nil => rfl
  | cons c rest ih =>
    have hc : isCut c = true := cut c List.mem_cons_self
    have hrest := ih fun d hd => cut d (List.mem_cons_of_mem c hd)
    simpa [runs, pieces, hc] using hrest

/-- A character that is no cut stands in some run. -/
theorem runs_ne_nil {text : List Char} {c : Char} (hc : c ∈ text) (uncut : isCut c = false) :
    runs isCut text ≠ [] := by
  induction text with
  | nil => cases hc
  | cons d rest ih =>
    by_cases hd : isCut d = true
    · have hne : c ≠ d := by
        rintro rfl
        rw [hd] at uncut
        cases uncut
      have hrest := ih ((List.mem_cons.mp hc).resolve_left hne)
      simpa [runs, pieces, hd] using hrest
    · obtain ⟨first, more, hp⟩ := List.exists_cons_of_ne_nil (pieces_ne_nil isCut rest)
      simp [runs, pieces, hd, hp]

/-! ### Runs of texts -/

/-- The runs of a text, as texts. -/
def stretches (isCut : Char → Bool) (text : String) : List String :=
  (runs isCut text.toList).map String.ofList

/-- A text that is one run: something stands in it, and no cut. -/
def IsStretch (isCut : Char → Bool) (text : String) : Prop :=
  text ≠ "" ∧ ∀ c ∈ text.toList, isCut c = false

theorem stretches_of_isStretch {text : String} (h : IsStretch isCut text) :
    stretches isCut text = [text] := by
  have nonempty : text.toList ≠ [] := by simpa using h.1
  simp [stretches, runs_of_uncut h.2 nonempty]

theorem isStretch_of_mem {text stretch : String} (h : stretch ∈ stretches isCut text) :
    IsStretch isCut stretch := by
  obtain ⟨run, hrun, rfl⟩ := List.mem_map.mp h
  obtain ⟨nonempty, uncut⟩ := mem_runs hrun
  refine ⟨?_, by simpa using uncut⟩
  intro empty
  exact nonempty (by simpa using congrArg String.toList empty)

section
variable (isCut) {sep : String} {c : Char} (single : sep.toList = [c]) (cut : isCut c = true)
include single cut

theorem stretches_append_cut (before after : String) :
    stretches isCut (before ++ sep ++ after) = stretches isCut before ++ stretches isCut after := by
  have h : (before ++ sep ++ after).toList = before.toList ++ c :: after.toList := by simp [single]
  simp only [stretches, h, runs_append_cut before.toList after.toList cut, List.map_append]

/-- What is joined at a cut comes apart again. -/
theorem stretches_join {texts : List String} (h : ∀ t ∈ texts, IsStretch isCut t) :
    stretches isCut (join sep texts) = texts := by
  induction texts with
  | nil => rfl
  | cons t rest ih =>
    have ht := stretches_of_isStretch (h t List.mem_cons_self)
    have hrest := ih fun u hu => h u (List.mem_cons_of_mem t hu)
    cases rest with
    | nil => simpa [join] using ht
    | cons u more =>
      simp only [join, String.intercalate_cons_cons] at hrest ⊢
      rw [stretches_append_cut isCut single cut, ht, hrest]
      rfl

end

theorem words_of_blank {text : String} (blank : isBlankText text = true) : words text = [] := by
  have cut : ∀ c ∈ text.toList, isBlank c = true := by simpa [isBlankText] using blank
  rw [words, runs_eq_nil cut]
  rfl

theorem words_ne_nil {text : String} (told : isBlankText text = false) : words text ≠ [] := by
  obtain ⟨c, hc, uncut⟩ : ∃ c ∈ text.toList, isBlank c = false := by simpa [isBlankText] using told
  simpa [words] using runs_ne_nil hc uncut

end PortfolioShell.Text
