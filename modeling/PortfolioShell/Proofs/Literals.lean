import PortfolioShell.Proofs.Occurrences
import PortfolioShell.Text.Matcher.Literal

/-!
# What literal expressions find

A text that is escaped and read again comes out as it was, so every text has an expression that
compiles and stands for it. The search for it looks at one place of the line after the other. Where
the folded pattern stands it goes on behind it, or with the next character if the pattern is empty,
else one character further, and this picks the leftmost places that do not overlap. It counts in
bytes, as positions do.
-/
namespace PortfolioShell.Text

namespace Literal

/-! ### Escaping -/

theorem unescape?_escape (text : List Char) : unescape? (text.flatMap escapeChar) = some text := by
  induction text with
  | nil => rfl
  | cons c rest ih =>
    rw [List.flatMap_cons]
    cases operator : operators.contains c with
    | true =>
      have escaped : escapeChar c = ['\\', c] := by rw [escapeChar, if_pos operator]
      rw [escaped, List.cons_append, List.singleton_append, unescape?, if_pos operator, ih]
      rfl
    | false =>
      have itself : escapeChar c = [c] := by simp only [escapeChar, operator, Bool.false_eq_true,
        if_false]
      have plain : c ≠ '\\' := by
        rintro rfl
        exact absurd operator (by decide)
      rw [itself, List.singleton_append, unescape?]
      · rw [operator, ih]
        rfl
      · rintro d more begun _
        exact plain begun

theorem finder?_literal (pattern : String) :
    Matcher.literal.finder? pattern = some (finder (pattern.toList.map foldChar)) := by
  have read : unescape? (escape pattern).toList = some pattern.toList := by
    rw [escape, String.toList_ofList, unescape?_escape]
  simp only [Matcher.finder?, Matcher.literal, read, Option.map_some]

/-! ### The places -/

theorem beginsAlike_iff (pattern : List Char) (letters : List Letter) :
    beginsAlike pattern letters = true ↔ pattern <+: letters.map (·.folded) := by
  induction pattern generalizing letters with
  | nil => simp [beginsAlike]
  | cons p pattern ih =>
    cases letters with
    | nil => simp [beginsAlike]
    | cons letter line => simp [beginsAlike, ih]

/-- The stretches, in bytes from `start`, of a pattern of so many characters at places. -/
def stretches (size start : Nat) (letters : List Letter) (places : List Nat) : List (Nat × Nat) :=
  places.map fun i =>
    (start + Letter.sizes (letters.take i), start + Letter.sizes (letters.take (i + size)))

theorem sizes_append (a b : List Letter) :
    Letter.sizes (a ++ b) = Letter.sizes a + Letter.sizes b := by
  induction a with
  | nil => rw [List.nil_append, Letter.sizes, Nat.zero_add]
  | cons letter rest ih => rw [List.cons_append, Letter.sizes, Letter.sizes, ih, Nat.add_assoc]

/-- Behind the first letters every stretch begins and ends later. -/
theorem stretches_drop (size start k : Nat) (letters : List Letter) (places : List Nat) :
    stretches size (start + Letter.sizes (letters.take k)) (letters.drop k) places =
      stretches size start letters (places.map (· + k)) := by
  have moved (i : Nat) : start + Letter.sizes (letters.take k) +
      Letter.sizes ((letters.drop k).take i) = start + Letter.sizes (letters.take (i + k)) := by
    rw [Nat.add_comm i k, List.take_add, sizes_append, Nat.add_assoc]
  simp only [stretches, List.map_map, Function.comp_def, moved, Nat.add_right_comm]

/-- The empty pattern stands at every place, and none hides another. -/
theorem isLeftmost_of_empty (text : List Char) :
    IsLeftmost (StandsAt [] text) 0 (List.range (text.length + 1)) := by
  constructor
  case ordered => exact List.pairwise_lt_range
  case picked =>
    intro i
    rw [List.mem_range]
    constructor
    · intro within
      exact ⟨⟨by omega, List.nil_prefix⟩, fun j _ less => Nat.le_of_lt less⟩
    · rintro ⟨⟨within, _⟩, _⟩
      omega

theorem offsets_of_empty (start : Nat) (letters : List Letter) :
    offsets [] start letters = stretches 0 start letters (List.range (letters.length + 1)) := by
  induction letters generalizing start with
  | nil => simp [offsets, stretches, Letter.sizes]
  | cons letter rest ih =>
    have here : offsets [] start (letter :: rest) =
        (start, start) :: offsets [] (start + letter.char.utf8Size) rest := by
      rw [offsets]
      simp [beginsAlike, Letter.sizes]
    have first : letter.char.utf8Size = Letter.sizes ((letter :: rest).take 1) := by
      simp [Letter.sizes]
    have behind := stretches_drop 0 start 1 (letter :: rest) (List.range (rest.length + 1))
    rw [List.drop_one, List.tail_cons, ← first, ← ih] at behind
    have parts : List.range (rest.length + 1 + 1) =
        0 :: (List.range (rest.length + 1)).map (· + 1) := List.range_succ_eq_map
    rw [here, behind, List.length_cons, parts]
    rfl

theorem le_sizes_take (letter : Letter) (rest : List Letter) {n : Nat} (some : 0 < n) :
    letter.char.utf8Size ≤ Letter.sizes ((letter :: rest).take n) := by
  obtain ⟨n, rfl⟩ := Nat.exists_eq_succ_of_ne_zero (Nat.ne_of_gt some)
  simp [Letter.sizes]

theorem drop_pred {n : Nat} (some : 0 < n) (letter : Letter) (rest : List Letter) :
    rest.drop (n - 1) = (letter :: rest).drop n := by
  obtain ⟨n, rfl⟩ := Nat.exists_eq_succ_of_ne_zero (Nat.ne_of_gt some)
  rfl

/-- What is found stands at the leftmost places. -/
theorem exists_leftmost (pattern : List Char) (start : Nat) (letters : List Letter) :
    ∃ places, IsLeftmost (StandsAt pattern (letters.map (·.folded))) pattern.length places ∧
      offsets pattern start letters = stretches pattern.length start letters places := by
  by_cases empty : pattern = []
  · subst empty
    have law := isLeftmost_of_empty (letters.map (·.folded))
    rw [List.length_map] at law
    exact ⟨_, law, offsets_of_empty start letters⟩
  have long : 0 < pattern.length := List.length_pos_iff.mpr empty
  fun_induction offsets pattern start letters with
  | case1 start isEmpty => exact absurd (List.isEmpty_iff.mp isEmpty) empty
  | case2 start _ =>
    refine ⟨[], .nil ?_, rfl⟩
    rintro i ⟨_, begun⟩
    rw [List.map_nil, List.drop_nil] at begun
    exact empty (List.prefix_nil.mp begun)
  | case3 start letter rest further begun stop ih =>
    obtain ⟨places, law, told⟩ := ih
    have begun := (beginsAlike_iff _ _).mp begun
    have fits := begun.length_le
    have onward : max further stop = stop :=
      Nat.max_eq_right (Nat.add_le_add_left (le_sizes_take letter rest long) start)
    rw [drop_pred long, List.map_drop] at law
    rw [onward, drop_pred long, stretches_drop] at told
    refine ⟨0 :: places.map (· + pattern.length), ?_, ?_⟩
    · apply IsLeftmost.take (standsAt_zero.mpr begun) long
      simpa only [standsAt_add fits] using law
    · rw [onward, drop_pred long, told]
      simp [stretches, stop, Letter.sizes]
  | case4 start letter rest further absent ih =>
    obtain ⟨places, law, told⟩ := ih
    refine ⟨places.map (· + 1), ?_, ?_⟩
    · apply IsLeftmost.passOver
      · intro stands
        exact absent ((beginsAlike_iff _ _).mpr (standsAt_zero.mp stands))
      · have fits : 1 ≤ ((letter :: rest).map (·.folded)).length := by simp
        simp only [standsAt_add fits]
        exact law
    · have moved := stretches_drop pattern.length start 1 (letter :: rest) places
      rw [← moved, told]
      simp [further, Letter.sizes]

/-! ### Positions -/

section Positions
variable {line : String}

theorem utf8ByteSize_ofList (text : List Char) :
    (String.ofList text).utf8ByteSize = Letter.sizes (text.map .ofChar) := by
  induction text with
  | nil => rfl
  | cons c rest ih =>
    rw [String.ofList_cons, String.utf8ByteSize_append, String.utf8ByteSize_singleton, ih]
    rfl

/-- The offset of a position is the size of what stands before it. -/
theorem offset_eq (p : line.Pos) :
    p.offset = ⟨Letter.sizes ((line.toList.map .ofChar).take (place p))⟩ := by
  have front : line.toList.take (place p) = before p := by
    rw [← before_append_behind p, place, List.take_left]
  have size := utf8ByteSize_ofList (before p)
  rw [before, String.ofList_toList] at size
  rw [p.splits.offset_eq_rawEndPos, ← List.map_take, front, String.rawEndPos, size]
  rfl

theorem match?_offsets {p q : line.Pos} (le : p ≤ q) :
    match? line (p.offset.byteIdx, q.offset.byteIdx) = some ⟨p, q, le⟩ := by
  have valid : p.offset.IsValid line ∧ q.offset.IsValid line ∧ p.offset ≤ q.offset :=
    ⟨p.isValid, q.isValid, le⟩
  rw [match?, dif_pos valid]

/-- The stretch behind `i` characters up to behind `j` is one of the line. -/
theorem exists_match {i j : Nat} (ordered : i ≤ j) (within : j ≤ line.toList.length) :
    ∃ m, match? line (Letter.sizes ((line.toList.map .ofChar).take i),
      Letter.sizes ((line.toList.map .ofChar).take j)) = some m ∧
        place m.start = i ∧ place m.stop = j := by
  obtain ⟨p, hp⟩ : ∃ p : line.Pos, place p = i := exists_place (Nat.le_trans ordered within)
  obtain ⟨q, hq⟩ : ∃ q : line.Pos, place q = j := exists_place within
  have le : p ≤ q := place_le_iff.mp (by omega)
  have found := match?_offsets le
  rw [offset_eq p, offset_eq q, hp, hq] at found
  exact ⟨_, found, hp, hq⟩

end Positions

/-! ### The matches -/

theorem map_filterMap_of_some {α β γ : Type} {get? : α → Option β} {key : β → γ} {name : α → γ}
    {items : List α} (h : ∀ a ∈ items, ∃ b, get? a = some b ∧ key b = name a) :
    (items.filterMap get?).map key = items.map name := by
  induction items with
  | nil => rfl
  | cons a rest ih =>
    obtain ⟨b, found, same⟩ := h a List.mem_cons_self
    rw [List.filterMap_cons_some found, List.map_cons, List.map_cons, same,
      ih fun a mem => h a (List.mem_cons_of_mem _ mem)]

/-- Where the pattern stands, its stretch is a match that is alike. -/
theorem exists_match_of_standsAt {pattern line : String} {i : Nat}
    (stands : StandsAt (pattern.toList.map foldChar) (line.toList.map foldChar) i) :
    ∃ m, match? line (Letter.sizes ((line.toList.map .ofChar).take i),
      Letter.sizes ((line.toList.map .ofChar).take (i + pattern.length))) = some m ∧
        place m.start = i ∧ Alike foldChar m.text pattern := by
  have within := stands.1
  have fits := stands.2.length_le
  rw [List.length_map] at within
  rw [List.length_drop, List.length_map, List.length_map, String.length_toList] at fits
  have behind : i + pattern.length ≤ line.toList.length := by omega
  obtain ⟨m, found, there, ends⟩ := exists_match (Nat.le_add_right i pattern.length) behind
  rw [← there] at stands
  obtain ⟨q, le, alike⟩ := standsAt_place_iff.mp stands
  obtain rfl : m.stop = q := by
    rw [← place_inj, ends, place_eq_add le, length_of_alike alike, there]
  exact ⟨m, found, there, alike⟩

theorem findsAlike_finder (pattern line : String) :
    FindsAlike foldChar pattern (finder (pattern.toList.map foldChar) line) := by
  obtain ⟨picked, law, told⟩ :=
    exists_leftmost (pattern.toList.map foldChar) 0 (line.toList.map .ofChar)
  have folded : (line.toList.map Letter.ofChar).map (·.folded) = line.toList.map foldChar := by
    simp [Letter.ofChar]
  rw [folded, List.length_map, String.length_toList] at law
  rw [List.length_map, String.length_toList] at told
  have matched (i : Nat) (mem : i ∈ picked) := exists_match_of_standsAt ((law.picked i).mp mem).1
  have found : finder (pattern.toList.map foldChar) line = picked.filterMap fun i =>
      match? line (Letter.sizes ((line.toList.map .ofChar).take i),
        Letter.sizes ((line.toList.map .ofChar).take (i + pattern.length))) := by
    simp only [finder, told, stretches, List.filterMap_map, Function.comp_def, Nat.zero_add]
  rw [found]
  apply finds_of_isLeftmost
  case law =>
    rw [map_filterMap_of_some fun i mem => (matched i mem).imp fun m law => ⟨law.1, law.2.1⟩]
    rwa [List.map_id']
  case alike =>
    intro m mem
    obtain ⟨i, hi, found⟩ := List.mem_filterMap.mp mem
    obtain ⟨n, found', _, alike⟩ := matched i hi
    obtain rfl : n = m := Option.some.inj (found'.symm.trans found)
    exact alike

end Literal

/-- The matcher of literal expressions finds every pattern. -/
theorem findsLiterally_literal : Matcher.literal.FindsLiterally foldChar where
  empty := by rw [Literal.finder?_literal]; rfl
  finds pattern find compiled line := by
    rw [Literal.finder?_literal] at compiled
    rw [← Option.some.inj compiled]
    exact Literal.findsAlike_finder pattern line

end PortfolioShell.Text
