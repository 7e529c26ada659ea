import Mathlib.Data.List.Forall2
import PortfolioShell.Proofs.Literals
import PortfolioShell.Text.Search

/-!
# What a search returns

The loop that cuts a line carries the end of the last match. Each turn puts down the gap before the
next match, if there is one, and the match, so that at any time what has been put down is the line
up to there. Behind the last match comes the tail. So the spans put together are the line, and the
highlighted ones begin where the matches do.
-/
namespace PortfolioShell.Text

/-- The places where the highlighted spans begin, counted in characters from `start`. -/
def places (start : Nat) : List Span → List Nat
  | [] => []
  | span :: rest =>
    (if span.highlighted then [start] else []) ++ places (start + span.text.length) rest

/-- The characters of spans. -/
def content (spans : List Span) : List Char := spans.flatMap (·.text.toList)

theorem places_ne_nil_iff (start : Nat) (spans : List Span) :
    places start spans ≠ [] ↔ ∃ span ∈ spans, span.highlighted = true := by
  induction spans generalizing start with
  | nil => simp [places]
  | cons span rest ih =>
    cases shown : span.highlighted with
    | true => simp [places, shown]
    | false =>
      rw [places, shown, List.exists_mem_cons_iff, shown]
      simpa using ih _

theorem content_cons (span : Span) (rest : List Span) :
    content (span :: rest) = span.text.toList ++ content rest := rfl

theorem content_append (spans others : List Span) :
    content (spans ++ others) = content spans ++ content others :=
  List.flatMap_append

theorem places_append (start : Nat) (spans others : List Span) :
    places start (spans ++ others) =
      places start spans ++ places (start + (content spans).length) others := by
  induction spans generalizing start with
  | nil => simp [places, content]
  | cons span rest ih =>
    rw [List.cons_append, places, places, ih, content_cons, List.length_append,
      String.length_toList, Nat.add_assoc, List.append_assoc]

theorem toList_join (texts : List String) :
    (join "" texts).toList = texts.flatMap String.toList := by
  induction texts with
  | nil => rfl
  | cons text rest ih =>
    rw [join] at ih ⊢
    cases rest with
    | nil => simp
    | cons next more =>
      rw [String.intercalate_cons_cons, String.toList_append, ih]
      simp

theorem toList_join_spans (spans : List Span) :
    (join "" (spans.map (·.text))).toList = content spans := by
  rw [toList_join, List.flatMap_map]
  rfl

/-! ### Gaps -/

section Gaps
variable {line : String} {last next : line.Pos}

theorem content_gap (h : last ≤ next) :
    content (gap last next) = (line.extract last next).toList := by
  rw [gap]
  split
  · simp [content]
  · rename_i notLess
    obtain rfl := Std.le_antisymm h (Std.not_lt.mp notLess)
    exact (List.append_cancel_left ((before_eq_append h).symm.trans (List.append_nil _).symm)).symm

theorem places_gap (start : Nat) : places start (gap last next) = [] := by
  rw [gap]
  split <;> rfl

theorem of_mem_gap {span : Span} (h : span ∈ gap last next) :
    span.highlighted = false ∧ span.text ≠ "" := by
  rw [gap] at h
  split at h
  · rename_i less
    obtain rfl := List.mem_singleton.mp h
    refine ⟨rfl, fun empty => ?_⟩
    exact extract_ne_nil less (String.toList_eq_nil_iff.mpr empty)
  · cases h

end Gaps

/-! ### The loop -/

section Loop
variable {line : String}

/-- Matches that follow each other behind a position. -/
def Follow (last : line.Pos) : List (Match line) → Prop
  | [] => True
  | found :: rest => last ≤ found.start ∧ Follow found.stop rest

theorem follow_of_apart {found : List (Match line)} {last : line.Pos}
    (behind : ∀ m ∈ found, last ≤ m.start)
    (apart : found.Pairwise fun a b => a.start < b.start ∧ a.stop ≤ b.start) :
    Follow last found := by
  induction apart generalizing last with
  | nil => trivial
  | cons first _ ih =>
    exact ⟨behind _ List.mem_cons_self, ih fun m hm => (first m hm).2⟩

/-- The spans are what stands behind the last match. -/
theorem content_spansFrom {found : List (Match line)} {last : line.Pos} (h : Follow last found) :
    content (spansFrom last found) = behind last := by
  induction found generalizing last with
  | nil =>
    have le : last ≤ line.endPos := String.Pos.le_endPos last
    rw [spansFrom, content_gap le, behind_eq_append le]
    simp [behind]
  | cons m rest ih =>
    rw [spansFrom, content_append, content_gap h.1, content_cons, ih h.2, behind_eq_append h.1,
      behind_eq_append m.ordered]
    rfl

/-- The highlighted spans begin where the matches do. -/
theorem places_spansFrom {found : List (Match line)} {last : line.Pos} (h : Follow last found) :
    places (place last) (spansFrom last found) = found.map (place ·.start) := by
  induction found generalizing last with
  | nil => exact places_gap _
  | cons m rest ih =>
    have there : place last + (content (gap last m.start)).length = place m.start := by
      rw [content_gap h.1, place_eq_add h.1]
    have further : place m.start + m.text.length = place m.stop := by
      rw [place_eq_add m.ordered, String.length_toList]
      rfl
    rw [spansFrom, places_append, places_gap, there, places, further, ih h.2]
    rfl

theorem of_mem_spansFrom {found : List (Match line)} {last : line.Pos} {span : Span}
    (h : span ∈ spansFrom last found) :
    (span.highlighted = false ∧ span.text ≠ "") ∨ ∃ m ∈ found, span = ⟨m.text, true⟩ := by
  induction found generalizing last with
  | nil => exact Or.inl (of_mem_gap h)
  | cons m rest ih =>
    rcases List.mem_append.mp h with gap | behind
    · exact Or.inl (of_mem_gap gap)
    · rcases List.mem_cons.mp behind with here | further
      · exact Or.inr ⟨m, List.mem_cons_self, here⟩
      · rcases ih further with plain | ⟨n, hn, shown⟩
        · exact Or.inl plain
        · exact Or.inr ⟨n, List.mem_cons_of_mem m hn, shown⟩

end Loop

/-! ### Lines -/

/-- What the spans of a line are for a pattern. -/
structure CutsAtMatches (matcher : Matcher) (fold : Char → Char) (pattern line : String)
    (spans : List Span) : Prop where
  /-- Nothing is lost. -/
  whole : join "" (spans.map (·.text)) = line
  told : ∀ span ∈ spans, span.highlighted = false → span.text ≠ ""
  /-- What is highlighted is the pattern but for case. -/
  alike : ∀ span ∈ spans, span.highlighted = true → Alike fold span.text pattern
  /-- It is what the matcher finds, if the pattern compiles, -/
  matched : ∀ find, matcher.finder? pattern = some find →
    places 0 spans = (find line).map (place ·.start)
  /-- and that stands at the leftmost places of the pattern that do not overlap. -/
  leftmost : (matcher.finder? pattern).isSome →
    IsLeftmost (StandsAt (pattern.toList.map fold) (line.toList.map fold)) pattern.length
      (places 0 spans)
  /-- Else nothing is highlighted. -/
  uncut : matcher.finder? pattern = none → spans = [⟨line, false⟩]

/-- The lines of a text that are found. -/
def foundLines (pattern text : String) : List String :=
  (lines text).filter (isFound (lower pattern.toList))

section
variable {matcher : Matcher} {fold : Char → Char} {pattern line : String}

theorem lower_ne_nil (c : Char) (rest : List Char) : lower (c :: rest) ≠ [] := by
  rw [lower, lowerAfter]
  split
  · exact List.cons_ne_nil _ _
  · rw [lowerChar]
    split <;> simp

/-- In the empty line nothing but the empty pattern is found. -/
theorem eq_empty_of_isFound (h : isFound (lower pattern.toList) "" = true) : pattern = "" := by
  cases chars : pattern.toList with
  | nil => exact String.toList_eq_nil_iff.mp chars
  | cons c rest =>
    rw [chars] at h
    exact absurd (List.isEmpty_iff.mp h) (lower_ne_nil c rest)

theorem cutsAtMatches_of_none (literal : matcher.FindsLiterally fold)
    (refused : matcher.finder? pattern = none)
    (found : isFound (lower pattern.toList) line = true) :
    CutsAtMatches matcher fold pattern line [⟨line, false⟩] where
  whole := rfl
  told := by
    intro span mem _ empty
    rw [List.mem_singleton.mp mem] at empty
    obtain rfl : line = "" := empty
    obtain rfl := eq_empty_of_isFound found
    have compiles := literal.empty
    rw [refused] at compiles
    cases compiles
  alike := by
    intro span mem shown
    rw [List.mem_singleton.mp mem] at shown
    cases shown
  matched := by simp [refused]
  leftmost := by simp [refused]
  uncut _ := rfl

theorem cutsAtMatches_of_finds {find : Finder} (compiled : matcher.finder? pattern = some find)
    (finds : FindsAlike fold pattern (find line)) :
    CutsAtMatches matcher fold pattern line (spansFrom line.startPos (find line)) := by
  have first : place line.startPos = 0 := by rw [place, before_startPos]; rfl
  have follow : Follow line.startPos (find line) :=
    follow_of_apart (fun _ _ => String.Pos.startPos_le _) finds.apart
  have places := places_spansFrom follow
  rw [first] at places
  constructor
  case whole =>
    rw [← String.toList_inj, toList_join_spans, content_spansFrom follow]
    exact behind_of_splits line.splits_startPos
  case told =>
    intro span mem plain
    rcases of_mem_spansFrom mem with ⟨_, some⟩ | ⟨m, _, rfl⟩
    · exact some
    · cases plain
  case alike =>
    intro span mem shown
    rcases of_mem_spansFrom mem with ⟨plain, _⟩ | ⟨m, hm, rfl⟩
    · rw [plain] at shown
      cases shown
    · exact finds.alike m hm
  case matched =>
    intro other same
    rw [← Option.some.inj (compiled.symm.trans same)]
    exact places
  case leftmost =>
    intro _
    rw [places]
    exact isLeftmost_of_finds finds
  case uncut =>
    intro refused
    rw [compiled] at refused
    cases refused

theorem cutsAtMatches_spans (literal : matcher.FindsLiterally fold)
    (found : isFound (lower pattern.toList) line = true) :
    CutsAtMatches matcher fold pattern line (spans (matcher.finder? pattern) line) := by
  cases compiled : matcher.finder? pattern with
  | none => exact cutsAtMatches_of_none literal compiled found
  | some find => exact cutsAtMatches_of_finds compiled (literal.finds pattern find compiled line)

theorem forall₂_cutsAtMatches (literal : matcher.FindsLiterally fold) (pattern text : String) :
    List.Forall₂ (CutsAtMatches matcher fold pattern) (foundLines pattern text)
      (search matcher pattern text) := by
  rw [search, List.forall₂_map_right_iff]
  apply List.forall₂_same.mpr
  intro line mem
  exact cutsAtMatches_spans literal (List.mem_filter.mp mem).2

/-- The lines that a search returns are lines of the text, in order, and each is cut into spans at
the places where the pattern stands for itself, without a loss. -/
theorem search_exact (literal : matcher.FindsLiterally fold) (pattern text : String) :
    (foundLines pattern text).Sublist (lines text) ∧
      List.Forall₂ (CutsAtMatches matcher fold pattern) (foundLines pattern text)
        (search matcher pattern text) :=
  ⟨List.filter_sublist, forall₂_cutsAtMatches literal pattern text⟩

end

/-- A point finds points only, whatever the case of what stands beside it. -/
theorem search_exact_of_point :
    let text := "Aa.AA.a\nab\nA.A."
    Matcher.literal.FindsLiterally foldChar ∧ foundLines "a.A" text = ["Aa.AA.a", "A.A."] ∧
      List.Forall₂ (CutsAtMatches .literal foldChar "a.A") ["Aa.AA.a", "A.A."]
        (search .literal "a.A" text) ∧
      search .literal "a.A" text = [[⟨"A", false⟩, ⟨"a.A", true⟩, ⟨"A.a", true⟩],
        [⟨"A.A", true⟩, ⟨".", false⟩]] := by
  intro text
  have found : foundLines "a.A" text = ["Aa.AA.a", "A.A."] := by decide +kernel
  have law := (search_exact findsLiterally_literal "a.A" text).2
  rw [found] at law
  exact ⟨findsLiterally_literal, found, law, by decide +kernel⟩

example : search .literal "" "ß" = [[⟨"", true⟩, ⟨"ß", false⟩, ⟨"", true⟩]] := by decide +kernel

end PortfolioShell.Text
