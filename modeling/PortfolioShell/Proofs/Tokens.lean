import Mathlib.Data.List.DropRight
import PortfolioShell.Proofs.Completions
import PortfolioShell.Proofs.Modes

/-!
# Lines in words

A line is cut into words when it is submitted, and also while it is typed. Both ways find the same
words, whatever blanks stand before, between and behind them; what is typed has one more word, an
empty one, where a blank or nothing at all stands before the cursor. So completion looks at the words
that will be carried out, and finds a word wherever it looks.
-/
namespace PortfolioShell

namespace Text

/-! ### Blanks at the ends -/

/-- A text without the blanks in front of it. -/
def unindented (text : String) : String := String.ofList (trimStart text.toList)

/-- Only blanks are taken from the front. -/
theorem exists_indent (text : List Char) :
    ∃ indent, text = indent ++ trimStart text ∧ ∀ c ∈ indent, isBlank c = true :=
  ⟨text.takeWhile isBlank, List.takeWhile_append_dropWhile.symm, fun _ => List.mem_takeWhile_imp⟩

theorem trimStart_eq_nil_iff {text : List Char} :
    trimStart text = [] ↔ ∀ c ∈ text, isBlank c = true := List.dropWhile_eq_nil_iff

theorem trimEnd_eq_nil_iff {text : List Char} :
    trimEnd text = [] ↔ ∀ c ∈ text, isBlank c = true := List.rdropWhile_eq_nil_iff

/-- Nothing is left between the blanks exactly if there are only blanks. -/
theorem trim_eq_empty_iff {text : String} : trim text = "" ↔ isBlankText text = true := by
  have told : trim text = "" ↔ ∀ c ∈ trimStart text.toList, isBlank c = true := by
    rw [trim, String.ofList_eq_empty_iff, trimEnd_eq_nil_iff]
  obtain ⟨indent, whole, blank⟩ := exists_indent text.toList
  rw [told, isBlankText, List.all_eq_true]
  constructor
  · intro rest c hc
    rw [whole] at hc
    rcases List.mem_append.mp hc with hc | hc
    · exact blank c hc
    · exact rest c hc
  · intro all c hc
    apply all
    rw [whole]
    exact List.mem_append_right indent hc

theorem runs_behind_cuts {isCut : Char → Bool} {cuts : List Char}
    (cut : ∀ c ∈ cuts, isCut c = true) (text : List Char) :
    runs isCut (cuts ++ text) = runs isCut text := by
  induction cuts with
  | nil => rfl
  | cons c rest ih =>
    have first : isCut c = true := cut c List.mem_cons_self
    have behind := runs_append_cut [] (rest ++ text) first
    rw [List.cons_append]
    exact behind.trans (ih fun d hd => cut d (List.mem_cons_of_mem c hd))

theorem words_unindented (text : String) : words (unindented text) = words text := by
  obtain ⟨indent, whole, blank⟩ := exists_indent text.toList
  have same : runs isBlank text.toList = runs isBlank (trimStart text.toList) := by
    rw [whole, runs_behind_cuts blank, ← whole]
  rw [words, words, unindented, String.toList_ofList, same]

theorem getLast?_unindented {text : String} (told : isBlankText text = false) :
    (unindented text).toList.getLast? = text.toList.getLast? := by
  obtain ⟨indent, whole, _⟩ := exists_indent text.toList
  have some : trimStart text.toList ≠ [] := by
    intro none
    rw [isBlankText, List.all_eq_true.mpr (trimStart_eq_nil_iff.mp none)] at told
    cases told
  rw [unindented, String.toList_ofList, whole, List.getLast?_append_of_ne_nil _ some, ← whole]

end Text

/-! ### Both ways of cutting a line -/

namespace UnfinishedLine

variable {line : String} {inv : Invocation}

/-- A text without blanks is the only word of a line. -/
theorem partialWords_of_uncut {word : String}
    (uncut : ∀ c ∈ word.toList, Text.isBlank c = false) : partialWords word = [word] := by
  by_cases empty : word = ""
  · rw [empty]
    rfl
  · have isWord : Text.IsWord word := ⟨empty, uncut⟩
    have opened := Text.not_endsBlank_append isWord ""
    rw [String.empty_append] at opened
    rw [partialWords_eq_words, Text.words_of_isWord isWord]
    simp [opened]

/-- The blanks in front of a line are in none of its words, and its last character is not one of
them. -/
theorem partialWords_eq_unindented (line : String) :
    partialWords line = Text.words (Text.unindented line) ++
      if Text.words (Text.unindented line) = [] ∨ Text.EndsBlank (Text.unindented line)
        then [""] else [] := by
  rw [partialWords_eq_words, Text.words_unindented]
  cases told : Text.isBlankText line with
  | true => simp [Text.words_of_blank told]
  | false =>
    have ends : Text.EndsBlank (Text.unindented line) ↔ Text.EndsBlank line := by
      rw [Text.EndsBlank, Text.getLast?_unindented told, Text.EndsBlank]
    simp only [ends]

theorem partialWords_of_ofLine? (told : Invocation.ofLine? line = some inv) :
    partialWords line = inv.name :: inv.args ++ if Text.EndsBlank line then [""] else [] := by
  rw [partialWords_eq_words, Tutorial.words_of_ofLine? told]
  simp

/-- No command begins with an empty word. -/
theorem partialWords_eq_empty_iff :
    partialWords line = [""] ↔ Invocation.ofLine? line = none := by
  constructor
  · intro empty
    cases told : Invocation.ofLine? line with
    | none => rfl
    | some inv =>
      have name : inv.name ∈ Text.words line := by
        rw [Tutorial.words_of_ofLine? told]
        exact List.mem_cons_self
      rw [partialWords_of_ofLine? told] at empty
      exact absurd (List.cons.inj empty).1 (Text.isWord_of_mem_words name).1
  · intro none
    rw [partialWords, Tutorial.ofLine?_eq_none_iff.mp none]
    rfl

end UnfinishedLine

namespace Invocation

variable {line : String} {inv : Invocation}

theorem ofLine?_of_words {name : String} {args : List String}
    (told : Text.words line = name :: args) : ofLine? line = some ⟨name, args⟩ := by
  rw [ofLine?, told]

/-- One blank between neighbours is enough. -/
theorem ofLine?_join (told : ofLine? line = some inv) :
    ofLine? (Text.join " " (inv.name :: inv.args)) = some inv := by
  have words : Text.words line = inv.name :: inv.args := Tutorial.words_of_ofLine? told
  apply ofLine?_of_words
  apply Text.words_join
  rw [← words]
  exact fun word => Text.isWord_of_mem_words

end Invocation

namespace Completion

/-- How many words completion looks at by their places, counted from the first. -/
def Kind.places : Kind → Nat
  | .command | .path | .other => 1
  | .subcommand => 2
  | .slug => 3

theorem places_le_length {words : List String} (some : words ≠ []) :
    (kindOf words).places ≤ words.length := by
  have shape := shape_of_kindOf words
  have first : 1 ≤ words.length := List.length_pos_of_ne_nil some
  cases kind : kindOf words with
  | subcommand =>
    rw [kind] at shape
    exact shape.1.ge
  | slug =>
    rw [kind] at shape
    exact shape.1.ge
  | command => exact first
  | path => exact first
  | other => exact first

end Completion

/-- What the words of a line are, once it is submitted and while it is typed. -/
structure TokenLaw (line : String) : Prop where
  /-- A line holds no command exactly if nothing is left of it without the blanks at its ends, -/
  blank : Invocation.ofLine? line = none ↔ Text.trim line = ""
  /-- which is what a session takes for a blank line, -/
  bare : Text.isBlankText line = true ↔ Text.trim line = ""
  /-- and exactly then all that is being typed is one empty word. -/
  begun : partialWords line = [""] ↔ Text.trim line = ""
  /-- Otherwise the words that are being typed are those of the command, and an empty one exactly if a
  blank stands last. -/
  told : ∀ inv, Invocation.ofLine? line = some inv →
    partialWords line = inv.name :: inv.args ++ if Text.EndsBlank line then [""] else []
  /-- It is all the same whether the blanks in front are dropped before. -/
  unindented : partialWords line = Text.words (Text.unindented line) ++
    if Text.words (Text.unindented line) = [] ∨ Text.EndsBlank (Text.unindented line)
      then [""] else []
  /-- Some word is being typed, -/
  typed : partialWords line ≠ []
  /-- and wherever completion looks there is one. -/
  places : (Completion.kindOf (partialWords line)).places ≤ (partialWords line).length
  /-- The words of a command with one blank between neighbours are the same command. -/
  joined : ∀ inv, Invocation.ofLine? line = some inv →
    Invocation.ofLine? (Text.join " " (inv.name :: inv.args)) = some inv

/-- Lines are cut into the same words when they are submitted and while they are typed. -/
theorem tokenLaw_of_line (line : String) : TokenLaw line := by
  have nothing : Invocation.ofLine? line = none ↔ Text.trim line = "" :=
    Tutorial.ofLine?_eq_none_iff_blank.trans Text.trim_eq_empty_iff.symm
  have typed : partialWords line ≠ [] := by simp [UnfinishedLine.partialWords_eq]
  constructor
  case blank => exact nothing
  case bare => exact Text.trim_eq_empty_iff.symm
  case begun => exact UnfinishedLine.partialWords_eq_empty_iff.trans nothing
  case told => exact fun inv => UnfinishedLine.partialWords_of_ofLine?
  case unindented => exact UnfinishedLine.partialWords_eq_unindented line
  case typed => exact typed
  case places => exact Completion.places_le_length typed
  case joined => exact fun inv => Invocation.ofLine?_join

example : partialWords "\u2003cd\u00a0" = ["cd", ""] := by decide +kernel

end PortfolioShell
