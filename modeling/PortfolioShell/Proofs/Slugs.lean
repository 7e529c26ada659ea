import Mathlib.Data.List.Basic
import Mathlib.Data.List.Induction
import PortfolioShell.Proofs.UnfinishedLines
import PortfolioShell.Slug

/-!
# How slugs are formed

At every moment while a slug is written, what stands there is grouped and holds just the letters and
digits that were met, in lower case. A hyphen waits until one of them follows, so none is ever put
at the end. Grouped text is ASCII, so a decomposition that keeps ASCII leaves it as it is, and
written once more it comes out as it went in. So the slug of a slug is that slug. It has no blanks,
so a line can name it by one word.
-/
namespace PortfolioShell

namespace Text

/-! ### ASCII decomposed -/

theorem classIn_of_lt {ranges : List (Nat × Nat × Nat)} {c : Char}
    (below : ∀ range ∈ ranges.head?, c.toNat < range.1) : classIn ranges c = 0 := by
  cases ranges with
  | nil => rfl
  | cons range rest =>
    have first : c.toNat < range.1 := below range rfl
    simp [classIn, first]

theorem inRanges_of_lt {ranges : List (Nat × Nat)} {c : Char}
    (below : ∀ range ∈ ranges.head?, c.toNat < range.1) : inRanges ranges c = false := by
  cases ranges with
  | nil => rfl
  | cons range rest =>
    have first : c.toNat < range.1 := below range rfl
    simp [inRanges, Nat.not_le.mpr first]

theorem combiningClass_of_ascii {c : Char} (h : c.toNat < 128) : combiningClass c = 0 := by
  refine classIn_of_lt fun range first => ?_
  obtain rfl : range = (0x300, 0x314, 230) := (Option.mem_some.mp first).symm
  show c.toNat < 0x300
  omega

theorem isMark_of_ascii {c : Char} (h : c.toNat < 128) : isMark c = false := by
  refine inRanges_of_lt fun range first => ?_
  obtain rfl : range = (0x300, 0x36F) := (Option.mem_some.mp first).symm
  show c.toNat < 0x300
  omega

theorem decomposeChar_of_ascii {c : Char} (h : c.toNat < 128) : decomposeChar c = [c] := by
  simp [decomposeChar, Decomposition.ofCode, h]

/-- Where no character has a class nothing is put in order. -/
theorem orderAfter_of_classless (text : List Char) :
    orderAfter [] (text.map fun c => (0, c)) = text := by
  induction text with
  | nil => simp [orderAfter, orderStretch]
  | cons c rest ih => simp [orderAfter, orderStretch, ih]

theorem decompose_of_ascii {text : List Char} (h : IsAscii text) : decompose text = text := by
  have alone : text.flatMap decomposeChar = text := by
    induction text with
    | nil => rfl
    | cons c rest ih =>
      have hc := decomposeChar_of_ascii (h c List.mem_cons_self)
      have hrest := ih fun d hd => h d (List.mem_cons_of_mem c hd)
      simp [hc, hrest]
  have classless : text.map (fun c => (combiningClass c, c)) = text.map fun c => (0, c) :=
    List.map_congr_left fun c hc => by rw [combiningClass_of_ascii (h c hc)]
  rw [decompose, alone, orderMarks, classless, orderAfter_of_classless]

/-- The tables of Unicode leave ASCII as it is. -/
theorem keepsAscii_unicode : Normalizer.unicode.KeepsAscii :=
  ⟨fun _ => decompose_of_ascii, fun _ => isMark_of_ascii⟩

theorem Normalizer.KeepsAscii.letters {normalizer : Normalizer} (keeps : normalizer.KeepsAscii)
    {text : String} (h : IsAscii text.toList) : normalizer.letters text = text.toList := by
  rw [Normalizer.letters, keeps.decompose _ h, List.filter_eq_self]
  intro c hc
  simp [keeps.isMark c (h c hc)]

end Text

namespace Slug

/-! ### Letters and digits of ASCII -/

theorem toNat_lt_of_isAlphanum {c : Char} (h : c.isAlphanum = true) : c.toNat < 128 := by
  have below : ∀ last : Char, last.toNat < 128 → c.val ≤ last.val → c.toNat < 128 :=
    fun _ ascii le => Nat.lt_of_le_of_lt (UInt32.le_iff_toNat_le.mp le) ascii
  have ranges : (decide (c.val ≥ 'A'.val ∧ c.val ≤ 'Z'.val) ||
      (decide (c.val ≥ 'a'.val) && decide (c.val ≤ 'z'.val)) ||
      (decide (c.val ≥ '0'.val) && decide (c.val ≤ '9'.val))) = true := h
  simp only [Bool.or_eq_true, Bool.and_eq_true, decide_eq_true_eq] at ranges
  rcases ranges with (upper | lower) | digit
  · exact below 'Z' (by decide) upper.2
  · exact below 'z' (by decide) lower.2
  · exact below '9' (by decide) digit.2

/-- What the table of ASCII shows of letters and digits holds of all of them. -/
theorem of_isAlphanum {P : Char → Prop}
    (table : ∀ n < 128, (Char.ofNat n).isAlphanum = true → P (Char.ofNat n)) {c : Char}
    (h : c.isAlphanum = true) : P c := by
  have hc := table c.toNat (toNat_lt_of_isAlphanum h)
  rw [Char.ofNat_toNat] at hc
  exact hc h

/-! ### Grouped text -/

/-- A letter in lower case or a digit, of ASCII. -/
def isSlugChar (c : Char) : Bool := c.isLower || c.isDigit

/-- Groups of such characters, with a single hyphen between neighbours and none at either end. -/
inductive IsGrouped : List Char → Prop
  | single {c : Char} : isSlugChar c = true → IsGrouped [c]
  | letter {text : List Char} {c : Char} :
      IsGrouped text → isSlugChar c = true → IsGrouped (text ++ [c])
  | hyphen {text : List Char} {c : Char} :
      IsGrouped text → isSlugChar c = true → IsGrouped (text ++ ['-', c])

theorem isAlphanum_of_isSlugChar {c : Char} (h : isSlugChar c = true) : c.isAlphanum = true := by
  rcases Bool.or_eq_true_iff.mp h with lower | digit
  · have letter : c.isAlpha = true := Bool.or_eq_true_iff.mpr (Or.inr lower)
    exact Bool.or_eq_true_iff.mpr (Or.inl letter)
  · exact Bool.or_eq_true_iff.mpr (Or.inr digit)

theorem isSlugChar_toLower {c : Char} (h : c.isAlphanum = true) : isSlugChar c.toLower = true :=
  of_isAlphanum (P := fun c => isSlugChar c.toLower = true) (by decide) h

theorem toLower_of_isSlugChar {c : Char} (h : isSlugChar c = true) : c.toLower = c :=
  of_isAlphanum (P := fun c => isSlugChar c = true → c.toLower = c) (by decide)
    (isAlphanum_of_isSlugChar h) h

theorem toNat_lt_of_isSlugChar {c : Char} (h : isSlugChar c = true) : c.toNat < 128 :=
  toNat_lt_of_isAlphanum (isAlphanum_of_isSlugChar h)

theorem IsGrouped.ne_nil {text : List Char} (h : IsGrouped text) : text ≠ [] := by
  cases h <;> simp

/-- Grouped text is made of such characters and hyphens. -/
theorem IsGrouped.mem {text : List Char} (h : IsGrouped text) {d : Char} (hd : d ∈ text) :
    isSlugChar d = true ∨ d = '-' := by
  induction h with
  | single hc =>
    rw [List.mem_singleton.mp hd]
    exact Or.inl hc
  | letter _ hc ih =>
    rcases List.mem_append.mp hd with before | last
    · exact ih before
    · rw [List.mem_singleton.mp last]
      exact Or.inl hc
  | hyphen _ hc ih =>
    rcases List.mem_append.mp hd with before | last
    · exact ih before
    · rcases List.mem_pair.mp last with rfl | rfl
      · exact Or.inr rfl
      · exact Or.inl hc

theorem IsGrouped.ascii {text : List Char} (h : IsGrouped text) : Text.IsAscii text := by
  intro d hd
  rcases h.mem hd with slugChar | rfl
  · exact toNat_lt_of_isSlugChar slugChar
  · decide

/-! ### Writing in one pass -/

namespace Writing

theorem front_cases (writing : Writing) : writing.front = writing.written ∨
    writing.written ≠ "" ∧ writing.front = writing.written.push '-' := by
  unfold front
  split
  · rename_i behind
    exact Or.inr ⟨by simpa using And.right (by simpa using behind), rfl⟩
  · exact Or.inl rfl

/-- The next letter goes on with the last group or begins one behind a hyphen. -/
theorem isGrouped_front {writing : Writing}
    (formed : writing.written.toList = [] ∨ IsGrouped writing.written.toList) {c : Char}
    (hc : isSlugChar c = true) : IsGrouped (writing.front.toList ++ [c]) := by
  rcases writing.front_cases with same | ⟨begun, behind⟩
  · rw [same]
    rcases formed with empty | grouped
    · rw [empty]
      exact .single hc
    · exact grouped.letter hc
  · have grouped := formed.resolve_left (mt String.toList_eq_nil_iff.mp begun)
    rw [behind, String.toList_push, List.append_assoc]
    exact grouped.hyphen hc

theorem filter_front (writing : Writing) :
    writing.front.toList.filter Char.isAlphanum =
      writing.written.toList.filter Char.isAlphanum := by
  rcases writing.front_cases with same | ⟨_, behind⟩
  · rw [same]
  · rw [behind, String.toList_push, List.filter_append]
    exact List.append_nil _

theorem take_letter (writing : Writing) {c : Char} (hc : c.isAlphanum = true) :
    writing.take c = ⟨writing.front.push c.toLower, false⟩ := by
  simp [take, hc]

theorem take_other (writing : Writing) {c : Char} (hc : c.isAlphanum = false) :
    writing.take c = ⟨writing.written, true⟩ := by
  simp [take, hc]

end Writing

theorem write_concat (text : List Char) (c : Char) : write (text ++ [c]) = (write text).take c :=
  List.foldl_concat ..

/-- What a slug is to the text it is made from. -/
structure Stands (text slug : List Char) : Prop where
  formed : slug = [] ∨ IsGrouped slug
  empty_iff : slug = [] ↔ ∀ c ∈ text, c.isAlphanum = false
  kept : slug.filter Char.isAlphanum = (text.filter Char.isAlphanum).map Char.toLower

/-- One more character is taken. -/
theorem Stands.take {text : List Char} {writing : Writing}
    (stands : Stands text writing.written.toList) (c : Char) :
    Stands (text ++ [c]) (writing.take c).written.toList := by
  cases hc : c.isAlphanum with
  | true =>
    have slugChar := isSlugChar_toLower hc
    rw [writing.take_letter hc, String.toList_push]
    refine ⟨Or.inr (Writing.isGrouped_front stands.formed slugChar), ?_, ?_⟩
    · have met : ¬ ∀ d ∈ text ++ [c], d.isAlphanum = false := by
        intro none
        simp [none c (by simp)] at hc
      exact iff_of_false (by simp) met
    · have lower := isAlphanum_of_isSlugChar slugChar
      simp [writing.filter_front, stands.kept, hc, lower]
  | false =>
    rw [writing.take_other hc]
    refine ⟨stands.formed, stands.empty_iff.trans ?_, ?_⟩
    · simp [or_imp, forall_and, hc]
    · simp [stands.kept, hc]

theorem stands_write (text : List Char) : Stands text (write text).written.toList := by
  induction text using List.reverseRecOn with
  | nil => exact ⟨Or.inl rfl, by simp [write, Writing.empty], rfl⟩
  | append_singleton text c ih =>
    rw [write_concat]
    exact ih.take c

/-- Grouped text comes out as it went in. -/
theorem write_of_isGrouped {text : List Char} (h : IsGrouped text) :
    write text = ⟨String.ofList text, false⟩ := by
  have taken : ∀ {writing : Writing} {c : Char}, isSlugChar c = true →
      writing.take c = ⟨writing.front.push c, false⟩ := by
    intro writing c hc
    rw [writing.take_letter (isAlphanum_of_isSlugChar hc), toLower_of_isSlugChar hc]
  induction h with
  | single hc => exact taken hc
  | letter _ hc ih =>
    rw [write_concat, ih, taken hc]
    simp [Writing.front]
  | @hyphen text c grouped hc ih =>
    have split : text ++ ['-', c] = (text ++ ['-']) ++ [c] := by simp
    have passed : write (text ++ ['-']) = ⟨String.ofList text, true⟩ := by
      rw [write_concat, ih]
      rfl
    rw [split, write_concat, passed, taken hc, Writing.mk.injEq, ← String.toList_inj]
    simp [Writing.front, grouped.ne_nil]

/-! ### The slug of a title -/

theorem stands_make (normalizer : Text.Normalizer) (title : String) :
    Stands (normalizer.letters title) (make normalizer title).toList := stands_write _

/-- Slugs are words. -/
theorem isWord_make {normalizer : Text.Normalizer} {title : String}
    (h : make normalizer title ≠ "") : Text.IsWord (make normalizer title) := by
  have grouped := (stands_make normalizer title).formed.resolve_left
    (mt String.toList_eq_nil_iff.mp h)
  refine ⟨h, fun c hc => ?_⟩
  rcases grouped.mem hc with slugChar | rfl
  · exact of_isAlphanum (P := fun c => Text.isBlank c = false) (by decide)
      (isAlphanum_of_isSlugChar slugChar)
  · decide

theorem make_make {normalizer : Text.Normalizer} (keeps : normalizer.KeepsAscii) (title : String) :
    make normalizer (make normalizer title) = make normalizer title := by
  rcases (stands_make normalizer title).formed with empty | grouped
  · rw [String.toList_eq_nil_iff.mp empty, make, keeps.letters (by simp [Text.IsAscii])]
    rfl
  · rw [make, keeps.letters grouped.ascii, write_of_isGrouped grouped, String.ofList_toList]

/-- A slug is empty or grouped, and empty just if no letter or digit of ASCII stands in the title
behind its accents. It holds all of those in order, in lower case. It is its own slug if the
decomposition keeps ASCII. -/
theorem make_law (normalizer : Text.Normalizer) (title : String) :
    Stands (normalizer.letters title) (make normalizer title).toList ∧
      (normalizer.KeepsAscii →
        make normalizer (make normalizer title) = make normalizer title) :=
  ⟨stands_make normalizer title, fun keeps => make_make keeps title⟩

/-- The fraction is one character that stands for two digits with a slash between them. -/
theorem make_law_of_half :
    let title := " ½ Crème -- Brûlée! "
    let normalizer := Text.Normalizer.unicode
    normalizer.KeepsAscii ∧ normalizer.letters title = " 1⁄2 Creme -- Brulee! ".toList ∧
      make normalizer title = "1-2-creme-brulee" ∧
      Stands (normalizer.letters title) (make normalizer title).toList ∧
      make normalizer (make normalizer title) = make normalizer title := by
  intro title normalizer
  have law := make_law normalizer title
  exact ⟨Text.keepsAscii_unicode, by decide +kernel, by decide +kernel, law.1,
    law.2 Text.keepsAscii_unicode⟩

end Slug

end PortfolioShell
