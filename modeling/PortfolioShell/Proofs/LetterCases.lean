import PortfolioShell.Proofs.Searches
import PortfolioShell.Text.Normalizer

/-!
# Lower case against folding

Lines are chosen by their lower case, and what is highlighted in them is found by folding. The two
are the same for nearly all characters. A capital sigma has a lower case that depends on what stands
around it, a capital I with a dot above becomes two characters, and a few letters, such as the
long s and the final sigma, are in lower case but fold to another letter. So a line may hold a
pattern and not be chosen, or be chosen with nothing to highlight. Without such characters a line is
chosen just if the pattern is found by folding, and a pattern in ASCII could only go wrong with an i
at a dotted capital I and an s at a long s.
-/
namespace PortfolioShell.Text

/-! ### Lower case in ASCII -/

theorem lowerChar_of_ascii {c : Char} (h : c.toNat < 128) :
    lowerChar c = [mapRuns lowercaseRuns c] := by
  have : c ≠ 'İ' := by
    rintro rfl
    exact absurd h (by decide)
  simp [lowerChar, this]

/-- In ASCII the lower case of a text is that of its characters. -/
theorem lowerAfter_of_ascii {text : List Char} (h : IsAscii text) (before : List Char) :
    lowerAfter before text = text.map (mapRuns lowercaseRuns) := by
  induction text generalizing before with
  | nil => rfl
  | cons c rest ih =>
    have hc : c.toNat < 128 := h c List.mem_cons_self
    have sigma : c ≠ 'Σ' := by
      rintro rfl
      exact absurd hc (by decide)
    simp only [lowerAfter, sigma, if_false, lowerChar_of_ascii hc, List.map_cons,
      ih (fun d hd => h d (List.mem_cons_of_mem c hd))]
    rfl

theorem lower_of_ascii {text : List Char} (h : IsAscii text) :
    lower text = text.map (mapRuns lowercaseRuns) := lowerAfter_of_ascii h []

/-- The dot above that a capital I leaves in lower case. -/
def dotAbove : Char := '\u0307'

theorem mapRuns_ne_dotAbove {c : Char} (h : c.toNat < 128) :
    mapRuns lowercaseRuns c ≠ dotAbove := by
  have table : ∀ n < 128, mapRuns lowercaseRuns (Char.ofNat n) ≠ dotAbove := by decide +kernel
  simpa using table c.toNat h

/-- Only a capital I with a dot above grows in lower case, and its dot stays. -/
theorem length_lowerAfter {before text : List Char} (h : dotAbove ∉ lowerAfter before text) :
    (lowerAfter before text).length = text.length := by
  induction text generalizing before with
  | nil => rfl
  | cons c rest ih =>
    simp only [lowerAfter, List.mem_append, not_or] at h
    obtain ⟨first, others⟩ := h
    have one : (if c = 'Σ' then [lowerSigma before rest] else lowerChar c).length = 1 := by
      split
      · rfl
      · rename_i sigma
        simp only [sigma, if_false, lowerChar] at first ⊢
        split
        · rename_i dotted
          simp [dotted, dotAbove] at first
        · rfl
    simp only [lowerAfter, List.length_append, one, ih others, List.length_cons]
    omega

/-- What begins a text of ASCII in any case is as long as its lower case. -/
theorem length_lower_of_begins {typed whole : List Char} (ascii : IsAscii whole)
    (h : lower typed <+: lower whole) : (lower typed).length = typed.length := by
  refine length_lowerAfter fun hdot => ?_
  have hmem : dotAbove ∈ lower whole := h.subset hdot
  rw [lower_of_ascii ascii] at hmem
  obtain ⟨c, hc, hmap⟩ := List.mem_map.mp hmem
  exact mapRuns_ne_dotAbove (ascii c hc) hmap

/-! ### Two ways to ignore case -/

/-- The characters that the lower case of a character may have, whatever stands around it. -/
def lowerForms (c : Char) : List Char := if c = 'Σ' then ['σ', 'ς'] else lowerChar c

/-- A character whose lower case is its folding. -/
def IsSteady (c : Char) : Prop := c ≠ 'Σ' ∧ lowerChar c = [foldChar c]

instance (c : Char) : Decidable (IsSteady c) := inferInstanceAs (Decidable (_ ∧ _))

/-- A character that a folded pattern has neither in lower case nor folded. -/
def IsForeign (pattern : List Char) (c : Char) : Prop :=
  (∀ d ∈ lowerForms c, d ∉ pattern) ∧ foldChar c ∉ pattern

instance (pattern : List Char) (c : Char) : Decidable (IsForeign pattern c) :=
  @instDecidableAnd _ _ (List.decidableBAll _ (lowerForms c)) inferInstance

/-- A text of characters whose lower case is their folding. -/
def IsSteadyText (text : List Char) : Prop := ∀ c ∈ text, IsSteady c

instance (text : List Char) : Decidable (IsSteadyText text) := List.decidableBAll _ text

/-- A line whose characters are steady where a folded pattern might meet them. -/
def IsPlainFor (pattern line : List Char) : Prop := ∀ c ∈ line, IsSteady c ∨ IsForeign pattern c

instance (pattern line : List Char) : Decidable (IsPlainFor pattern line) :=
  List.decidableBAll _ line

/-- Each character of a line puts something into its lower case. -/
theorem exists_lowerAfter_cons (before : List Char) (c : Char) (rest : List Char) :
    ∃ x, lowerAfter before (c :: rest) = x ++ lowerAfter (c :: before) rest ∧ x ≠ [] ∧
      x ⊆ lowerForms c := by
  by_cases sigma : c = 'Σ'
  · subst sigma
    refine ⟨[lowerSigma before rest], rfl, List.cons_ne_nil _ _, ?_⟩
    intro d mem
    rw [List.mem_singleton.mp mem, lowerSigma]
    split <;> decide
  · refine ⟨lowerChar c, ?_, ?_, ?_⟩
    · rw [lowerAfter, if_neg sigma]
    · rw [lowerChar]
      split <;> exact List.cons_ne_nil _ _
    · rw [lowerForms, if_neg sigma]
      exact List.Subset.refl _

theorem lowerAfter_of_steady {text : List Char} (steady : IsSteadyText text)
    (before : List Char) : lowerAfter before text = text.map foldChar := by
  induction text generalizing before with
  | nil => rfl
  | cons c rest ih =>
    obtain ⟨other, single⟩ := steady c List.mem_cons_self
    rw [lowerAfter, if_neg other, single, ih fun d mem => steady d (List.mem_cons_of_mem c mem)]
    rfl

/-! ### Texts that a pattern cannot tell apart -/

/-- Texts that are the same but for stretches without characters of the pattern. -/
inductive Parallel (pattern : List Char) : List Char → List Char → Prop
  | nil : Parallel pattern [] []
  | same (c : Char) {a b : List Char} (further : Parallel pattern a b) :
      Parallel pattern (c :: a) (c :: b)
  | foreign {x y a b : List Char} (someLeft : x ≠ []) (someRight : y ≠ [])
      (left : ∀ c ∈ x, c ∉ pattern) (right : ∀ c ∈ y, c ∉ pattern)
      (further : Parallel pattern a b) : Parallel pattern (x ++ a) (y ++ b)

theorem parallel_lowerAfter {pattern line : List Char} (h : IsPlainFor pattern line)
    (before : List Char) :
    Parallel pattern (lowerAfter before line) (line.map foldChar) := by
  induction line generalizing before with
  | nil => exact .nil
  | cons c rest ih =>
    have further := ih (fun d mem => h d (List.mem_cons_of_mem c mem)) (c :: before)
    rcases h c List.mem_cons_self with ⟨other, single⟩ | ⟨forms, folded⟩
    · rw [lowerAfter, if_neg other, single]
      exact .same _ further
    · obtain ⟨x, parted, some, among⟩ := exists_lowerAfter_cons before c rest
      have alone : ∀ d ∈ [foldChar c], d ∉ pattern := by
        intro d mem
        rwa [List.mem_singleton.mp mem]
      rw [parted]
      exact .foreign some (List.cons_ne_nil _ _) (fun d mem => forms d (among mem)) alone further

/-- No stretch without characters of the pattern holds the beginning of one. -/
theorem infix_of_foreign {pattern x a : List Char} (foreign : ∀ c ∈ x, c ∉ pattern)
    (h : pattern <:+: x ++ a) : pattern <:+: a := by
  induction x with
  | nil => exact h
  | cons d x ih =>
    rcases List.infix_cons_iff.mp h with begun | further
    · cases pattern with
      | nil => exact List.nil_infix
      | cons p rest =>
        obtain rfl := (List.cons_prefix_cons.mp begun).1
        exact absurd List.mem_cons_self (foreign p List.mem_cons_self)
    · exact ih (fun c mem => foreign c (List.mem_cons_of_mem d mem)) further

namespace Parallel

variable {pattern a b : List Char}

theorem symm (h : Parallel pattern a b) : Parallel pattern b a := by
  induction h with
  | nil => exact .nil
  | same c further ih => exact .same c ih
  | foreign someLeft someRight left right further ih =>
    exact .foreign someRight someLeft right left ih

theorem begins (h : Parallel pattern a b) {start : List Char} (within : start ⊆ pattern)
    (begun : start <+: a) : start <+: b := by
  induction h generalizing start with
  | nil => exact begun
  | same c further ih =>
    rcases List.prefix_cons_iff.mp begun with rfl | ⟨more, rfl, behind⟩
    · exact List.nil_prefix
    · have inner : more ⊆ pattern := fun d mem => within (List.mem_cons_of_mem c mem)
      exact List.cons_prefix_cons.mpr ⟨rfl, ih inner behind⟩
  | foreign someLeft someRight left right further ih =>
    obtain ⟨d, x, rfl⟩ := List.exists_cons_of_ne_nil someLeft
    rcases List.prefix_cons_iff.mp begun with rfl | ⟨more, rfl, behind⟩
    · exact List.nil_prefix
    · exact absurd (within List.mem_cons_self) (left d List.mem_cons_self)

theorem infix_of_infix (h : Parallel pattern a b) (stands : pattern <:+: a) : pattern <:+: b := by
  induction h with
  | nil => exact stands
  | @same c a b further ih =>
    rcases List.infix_cons_iff.mp stands with begun | behind
    · exact ((Parallel.same c further).begins (List.Subset.refl _) begun).isInfix
    · exact (ih behind).trans (List.suffix_cons c b).isInfix
  | @foreign x y a b someLeft someRight left right further ih =>
    exact (ih (infix_of_foreign left stands)).trans (List.suffix_append y b).isInfix

theorem infix_iff (h : Parallel pattern a b) : pattern <:+: a ↔ pattern <:+: b :=
  ⟨h.infix_of_infix, h.symm.infix_of_infix⟩

end Parallel

/-! ### A pattern within a line -/

/-- Whether the capital sigmas of a text have the same lower case whatever stands around it. -/
def IsSettled (text : List Char) : Prop :=
  ∀ before after, text = before ++ 'Σ' :: after → ∀ outer further,
    lowerSigma (before.reverse ++ outer) (after ++ further) = lowerSigma before.reverse after

theorem isSettled_of_not_mem {text : List Char} (h : 'Σ' ∉ text) : IsSettled text := by
  rintro before after rfl
  exact absurd (List.mem_append_right before List.mem_cons_self) h

theorem lowerAfter_of_settled {before rest : List Char} (h : IsSettled (before.reverse ++ rest))
    (outer further : List Char) :
    lowerAfter (before ++ outer) (rest ++ further) =
      lowerAfter before rest ++ lowerAfter (rest.reverse ++ before ++ outer) further := by
  induction rest generalizing before with
  | nil => rfl
  | cons c rest ih =>
    have inner : IsSettled ((c :: before).reverse ++ rest) := by simpa using h
    have behind := ih inner
    have first :
        (if c = 'Σ' then [lowerSigma (before ++ outer) (rest ++ further)] else lowerChar c) =
          if c = 'Σ' then [lowerSigma before rest] else lowerChar c := by
      split
      · rename_i sigma
        subst sigma
        simpa using h before.reverse rest rfl outer further
      · rfl
    rw [List.cons_append] at behind
    rw [List.cons_append, lowerAfter, lowerAfter, first, behind]
    simp

theorem exists_lowerAfter_append (before a b : List Char) :
    ∃ x, lowerAfter before (a ++ b) = x ++ lowerAfter (a.reverse ++ before) b := by
  induction a generalizing before with
  | nil => exact ⟨[], rfl⟩
  | cons c rest ih =>
    obtain ⟨x, parted, _⟩ := exists_lowerAfter_cons before c (rest ++ b)
    obtain ⟨y, behind⟩ := ih (c :: before)
    refine ⟨x ++ y, ?_⟩
    rw [List.cons_append, parted, behind, List.append_assoc, List.reverse_cons, List.append_assoc]
    rfl

theorem lower_infix {pattern line : List Char} (settled : IsSettled pattern)
    (h : pattern <:+: line) : lower pattern <:+: lower line := by
  obtain ⟨before, after, rfl⟩ := h
  obtain ⟨x, parted⟩ := exists_lowerAfter_append [] before (pattern ++ after)
  have inner := @lowerAfter_of_settled [] pattern settled (before.reverse ++ []) after
  rw [List.nil_append] at inner
  rw [lower, lower, List.append_assoc, parted, inner]
  exact ⟨x, _, List.append_assoc _ _ _⟩

/-! ### Letters beyond ASCII -/

/-- A mapping stays above a bound if its runs do, wherever they take in characters above it. -/
theorem le_mapRuns {runs : List (Nat × Nat × Nat × Nat)} {bound : Nat} {c : Char}
    (above : bound ≤ c.toNat)
    (keeps : ∀ run ∈ runs, run.1 ≤ c.toNat → c.toNat ≤ run.2.1 →
      bound ≤ (Char.ofNat (run.2.2.2 + (c.toNat - run.1))).toNat) :
    bound ≤ (mapRuns runs c).toNat := by
  induction runs with
  | nil => exact above
  | cons run rest ih =>
    obtain ⟨first, last, stride, image⟩ := run
    rw [mapRuns]
    split
    · exact above
    · rename_i begun
      split
      · rename_i within
        rw [Bool.and_eq_true, decide_eq_true_eq] at within
        exact keeps _ List.mem_cons_self (Nat.not_lt.mp begun) within.1
      · exact ih fun run mem => keeps run (List.mem_cons_of_mem _ mem)

/-- A run that ends in ASCII, or that moves letters to letters beyond it. -/
def StaysBeyondAscii (run : Nat × Nat × Nat × Nat) : Prop :=
  run.2.1 < 128 ∨ 128 ≤ run.2.2.2 ∧ (run.2.2.2 + (run.2.1 - run.1) < 0xD800 ∨
    0xE000 ≤ run.2.2.2 ∧ run.2.2.2 + (run.2.1 - run.1) < 0x110000)

instance (run : Nat × Nat × Nat × Nat) : Decidable (StaysBeyondAscii run) :=
  inferInstanceAs (Decidable (_ ∨ _))

theorem StaysBeyondAscii.keeps {run : Nat × Nat × Nat × Nat} (h : StaysBeyondAscii run) {n : Nat}
    (beyond : 128 ≤ n) (last : n ≤ run.2.1) :
    128 ≤ (Char.ofNat (run.2.2.2 + (n - run.1))).toNat := by
  rcases h with within | ⟨image, valid⟩
  · omega
  · have valid : (run.2.2.2 + (n - run.1)).isValidChar := by
      unfold Nat.isValidChar
      omega
    have code : (Char.ofNat (run.2.2.2 + (n - run.1))).toNat = run.2.2.2 + (n - run.1) := by
      rw [Char.ofNat, dif_pos valid]
      rfl
    omega

/-- Of the letters beyond ASCII only the Kelvin sign has one of ASCII in lower case, and only it and
the long s fold to one. -/
theorem le_mapRuns_of_beyond {c : Char} (beyond : 128 ≤ c.toNat) (kelvin : c ≠ '\u212A') :
    128 ≤ (mapRuns lowercaseRuns c).toNat ∧ (c ≠ 'ſ' → 128 ≤ (foldChar c).toNat) := by
  have notKelvin : c.toNat ≠ 0x212A := fun same => kelvin (Char.toNat_inj.mp same)
  constructor
  · have table : ∀ run ∈ lowercaseRuns, run = (0x212A, 0x212A, 1, 0x6B) ∨ StaysBeyondAscii run := by
      decide +kernel
    apply le_mapRuns beyond
    intro run mem first last
    rcases table run mem with rfl | stays
    · exact absurd (Nat.le_antisymm last first) notKelvin
    · exact stays.keeps beyond last
  · intro short
    have notLong : c.toNat ≠ 0x17F := fun same => short (Char.toNat_inj.mp same)
    have table : ∀ run ∈ foldRuns, run = (0x17F, 0x17F, 1, 0x73) ∨
        run = (0x212A, 0x212A, 1, 0x6B) ∨ StaysBeyondAscii run := by
      decide +kernel
    apply le_mapRuns beyond
    intro run mem first last
    rcases table run mem with rfl | rfl | stays
    · exact absurd (Nat.le_antisymm last first) notLong
    · exact absurd (Nat.le_antisymm last first) notKelvin
    · exact stays.keeps beyond last

theorem isSteady_of_ascii {c : Char} (h : c.toNat < 128) : IsSteady c := by
  have table : ∀ n < 128, IsSteady (Char.ofNat n) := by decide +kernel
  simpa using table c.toNat h

theorem foldChar_of_ascii {c : Char} (h : c.toNat < 128) : (foldChar c).toNat < 128 := by
  have table : ∀ n < 128, (foldChar (Char.ofNat n)).toNat < 128 := by decide +kernel
  simpa using table c.toNat h

/-- To a pattern in ASCII every letter is steady or foreign, but for a dotted capital I that an i
meets and a long s that an s meets. -/
theorem isSteady_or_isForeign {pattern : List Char} (ascii : IsAscii pattern) {c : Char}
    (dotted : c = 'İ' → 'i' ∉ pattern.map foldChar) (long : c = 'ſ' → 's' ∉ pattern.map foldChar) :
    IsSteady c ∨ IsForeign (pattern.map foldChar) c := by
  have absent {d : Char} (beyond : 128 ≤ d.toNat) : d ∉ pattern.map foldChar := by
    intro mem
    obtain ⟨e, among, rfl⟩ := List.mem_map.mp mem
    exact absurd (foldChar_of_ascii (ascii e among)) (Nat.not_lt.mpr beyond)
  by_cases within : c.toNat < 128
  · exact Or.inl (isSteady_of_ascii within)
  have beyond : 128 ≤ c.toNat := Nat.not_lt.mp within
  by_cases kelvin : c = '\u212A'
  · subst kelvin
    exact Or.inl (by decide +kernel)
  obtain ⟨low, folded⟩ := le_mapRuns_of_beyond beyond kelvin
  have unfolded : foldChar c ∉ pattern.map foldChar := by
    by_cases short : c = 'ſ'
    · have toS : foldChar c = 's' := by
        rw [short]
        decide +kernel
      rw [toS]
      exact long short
    · exact absent (folded short)
  refine Or.inr ⟨?_, unfolded⟩
  intro d mem
  rw [lowerForms, lowerChar] at mem
  split at mem
  · rcases List.mem_pair.mp mem with rfl | rfl
    · exact absent (by decide)
    · exact absent (by decide)
  · split at mem
    · rename_i isDotted
      rcases List.mem_pair.mp mem with rfl | rfl
      · exact dotted isDotted
      · exact absent (by decide)
    · rw [List.mem_singleton.mp mem]
      exact absent low

/-! ### Chosen lines -/

/-- Whether a pattern stands somewhere in a line when case is folded. -/
def StandsIn (pattern line : String) : Prop :=
  ∃ i, StandsAt (pattern.toList.map foldChar) (line.toList.map foldChar) i

theorem standsIn_iff (pattern line : String) :
    StandsIn pattern line ↔ pattern.toList.map foldChar <:+: line.toList.map foldChar :=
  exists_standsAt_iff

theorem contains_iff (pattern text : List Char) :
    contains pattern text = true ↔ pattern <:+: text := by
  induction text with
  | nil => simp [contains]
  | cons c rest ih =>
    rw [contains, Bool.or_eq_true, List.isPrefixOf_iff_prefix, ih, List.infix_cons_iff]

theorem mem_foundLines {pattern text line : String} :
    line ∈ foundLines pattern text ↔
      line ∈ lines text ∧ lower pattern.toList <:+: lower line.toList := by
  rw [foundLines, List.mem_filter, isFound, contains_iff]

section
variable {matcher : Matcher} {pattern line : String}

/-- What a matcher finds in a line begins where the pattern stands. -/
theorem ne_nil_iff_standsIn (literal : matcher.FindsLiterally foldChar) {find : Finder}
    (compiled : matcher.finder? pattern = some find) : find line ≠ [] ↔ StandsIn pattern line := by
  have law := isLeftmost_of_finds (literal.finds pattern find compiled line)
  rw [StandsIn, ← law.ne_nil_iff, ne_eq, ne_eq, List.map_eq_nil_iff]

/-- A line is highlighted somewhere just if the pattern stands in it. -/
theorem exists_highlighted_iff {spans : List Span}
    (h : CutsAtMatches matcher foldChar pattern line spans)
    (compiled : (matcher.finder? pattern).isSome) :
    (∃ span ∈ spans, span.highlighted = true) ↔ StandsIn pattern line := by
  rw [← places_ne_nil_iff 0, (h.leftmost compiled).ne_nil_iff, StandsIn]

end

/-- How the two ways to ignore case agree. -/
structure MatchersAgree (matcher : Matcher) (pattern text : String) : Prop where
  /-- The matcher finds a pattern that compiles in just the lines in which it stands. -/
  finds : ∀ find, matcher.finder? pattern = some find →
    ∀ line, find line ≠ [] ↔ StandsIn pattern line
  /-- A returned line has a highlighted span just if the pattern stands in it. -/
  highlighted : (matcher.finder? pattern).isSome → List.Forall₂ (fun line spans =>
      (∃ span ∈ spans, span.highlighted = true) ↔ StandsIn pattern line)
    (foundLines pattern text) (search matcher pattern text)
  /-- A line that holds the pattern as it is written is returned, if its sigmas are settled. -/
  literal : IsSettled pattern.toList → ∀ line ∈ lines text, pattern.toList <:+: line.toList →
    line ∈ foundLines pattern text
  /-- Of characters whose lower case is their folding, and others that the pattern has not got, a
  line is returned just if the pattern stands in it. -/
  steady : IsSteadyText pattern.toList → ∀ line ∈ lines text,
    IsPlainFor (pattern.toList.map foldChar) line.toList →
      (line ∈ foundLines pattern text ↔ StandsIn pattern line)
  /-- So it is for a pattern in ASCII and any line, but for a dotted capital I if the pattern has an
  i, and a long s if it has an s. -/
  ascii : IsAscii pattern.toList → ∀ line ∈ lines text,
    ('İ' ∈ line.toList → 'i' ∉ pattern.toList.map foldChar) →
      ('ſ' ∈ line.toList → 's' ∉ pattern.toList.map foldChar) →
        (line ∈ foundLines pattern text ↔ StandsIn pattern line)

theorem mem_foundLines_iff_standsIn {pattern text line : String}
    (steady : IsSteadyText pattern.toList) (mem : line ∈ lines text)
    (other : IsPlainFor (pattern.toList.map foldChar) line.toList) :
    line ∈ foundLines pattern text ↔ StandsIn pattern line := by
  rw [mem_foundLines, standsIn_iff, lower, lower, lowerAfter_of_steady steady,
    (parallel_lowerAfter other []).infix_iff]
  exact and_iff_right mem

theorem matchersAgree {matcher : Matcher} (literal : matcher.FindsLiterally foldChar)
    (pattern text : String) : MatchersAgree matcher pattern text := by
  constructor
  case finds => exact fun find compiled line => ne_nil_iff_standsIn literal compiled
  case highlighted =>
    intro compiled
    exact (forall₂_cutsAtMatches literal pattern text).imp fun _ _ cut =>
      exists_highlighted_iff cut compiled
  case literal =>
    intro settled line mem stands
    exact mem_foundLines.mpr ⟨mem, lower_infix settled stands⟩
  case steady =>
    intro steady line mem other
    exact mem_foundLines_iff_standsIn steady mem other
  case ascii =>
    intro ascii line mem dotted long
    apply mem_foundLines_iff_standsIn (fun c among => isSteady_of_ascii (ascii c among)) mem
    intro c among
    apply isSteady_or_isForeign ascii
    · rintro rfl
      exact dotted among
    · rintro rfl
      exact long among

/-- French in capitals, in a text that has capital sigmas too. -/
theorem matchersAgree_on_summer :
    let text := "ÉTÉ\nun été\nΠΥΛΟΣ"
    let pattern := "ÉTÉ".toList.map foldChar
    Matcher.literal.FindsLiterally foldChar ∧
      lines text = ["ÉTÉ", "un été", "ΠΥΛΟΣ"] ∧ IsSettled "ÉTÉ".toList ∧
      IsSteadyText "ÉTÉ".toList ∧ IsPlainFor pattern "un été".toList ∧
      IsPlainFor pattern "ΠΥΛΟΣ".toList ∧
      "ÉTÉ" ∈ foundLines "ÉTÉ" text ∧ "un été" ∈ foundLines "ÉTÉ" text ∧
      "ΠΥΛΟΣ" ∉ foundLines "ÉTÉ" text ∧
      IsAscii "UN".toList ∧ "un été" ∈ foundLines "UN" text := by
  intro text pattern
  have parted : lines text = ["ÉTÉ", "un été", "ΠΥΛΟΣ"] := by decide +kernel
  have settled : IsSettled "ÉTÉ".toList := isSettled_of_not_mem (by decide)
  have steady : IsSteadyText "ÉTÉ".toList := by decide +kernel
  have summer : IsPlainFor pattern "un été".toList := by decide +kernel
  have pylos : IsPlainFor pattern "ΠΥΛΟΣ".toList := by decide +kernel
  have ascii : IsAscii "UN".toList := by decide
  have law := matchersAgree findsLiterally_literal "ÉTÉ" text
  have lawOfUn := matchersAgree findsLiterally_literal "UN" text
  refine ⟨findsLiterally_literal, parted, settled, steady, summer, pylos, ?_, ?_, ?_, ascii, ?_⟩
  · apply law.literal settled "ÉTÉ" _ (List.infix_rfl)
    simp [parted]
  · apply (law.steady steady "un été" _ summer).mpr ⟨3, by decide +kernel⟩
    simp [parted]
  · intro found
    have stands := (law.steady steady "ΠΥΛΟΣ" (by simp [parted]) pylos).mp found
    rw [standsIn_iff] at stands
    exact absurd stands (by decide +kernel)
  · apply (lawOfUn.ascii ascii "un été" _ (by decide) (by decide)).mpr
    · exact ⟨0, by decide +kernel⟩
    · simp [parted]

/-- A final sigma is not returned where it stands as it is written, a dotted capital I is returned
for an i without a highlight, and a long s is an s by folding only. -/
theorem matchers_disagree :
    ("ΑΣ" ∈ lines "ΑΣ" ∧ "Σ".toList <:+: "ΑΣ".toList ∧ StandsIn "Σ" "ΑΣ" ∧
        "ΑΣ" ∉ foundLines "Σ" "ΑΣ" ∧ search .literal "Σ" "ΑΣ" = []) ∧
      ("İ" ∈ foundLines "i" "İ" ∧ ¬ StandsIn "i" "İ" ∧
        search .literal "i" "İ" = [[⟨"İ", false⟩]]) ∧
      "ſ" ∈ lines "ſ" ∧ StandsIn "s" "ſ" ∧ "ſ" ∉ foundLines "s" "ſ" := by
  refine ⟨⟨?_, ⟨['Α'], [], ?_⟩, ⟨1, ?_⟩, ?_, ?_⟩, ⟨?_, ?_, ?_⟩, ?_, ⟨0, ?_⟩, ?_⟩
  case refine_7 =>
    rw [standsIn_iff]
    decide +kernel
  all_goals decide +kernel

end PortfolioShell.Text
