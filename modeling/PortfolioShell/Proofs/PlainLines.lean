import PortfolioShell.Screen.Render

/-!
# Coloured lines read as plain lines

Without its styling sequences a coloured line is its plain text, whatever its blocks are, as long as
none of its texts has an escape character. The two are laid out on their own: each pads keys, joins
rows and goes through spans. What is compared are their parts, and a part reads as another one in
front of any text, so that parts can be put together.
-/
namespace PortfolioShell

/-! ### Styling sequences -/

namespace Styling

/-- Digits and what separates numbers. -/
def isParameter (c : Char) : Bool := c.isDigit || c == ';'

/-- The length of the styling sequence that a text begins with, which is an escape character, a
bracket, numbers and `m`; nothing without one. -/
def lengthAt : List Char → Nat
  | '\x1b' :: '[' :: rest =>
    if (rest.dropWhile isParameter).head? = some 'm'
    then (rest.takeWhile isParameter).length + 3 else 0
  | _ => 0

/-- The text without styling sequences, where some first characters are the rest of one. -/
def deleteFrom : Nat → List Char → List Char
  | _, [] => []
  | skipped + 1, _ :: rest => deleteFrom skipped rest
  | 0, c :: rest =>
    match lengthAt (c :: rest) with
    | 0 => c :: deleteFrom 0 rest
    | others + 1 => deleteFrom others rest

/-- The text without styling sequences. -/
def delete (text : String) : String := String.ofList (deleteFrom 0 text.toList)

/-- A text that no sequence begins in. -/
def IsUnescaped (text : String) : Prop := '\x1b' ∉ text.toList

instance (text : String) : Decidable (IsUnescaped text) :=
  inferInstanceAs (Decidable (¬ _ ∈ _))

theorem isUnescaped_padRight {text : String} (width : Nat) (unescaped : IsUnescaped text) :
    IsUnescaped (Text.padRight width text) := by
  intro escape
  rw [Text.padRight, String.toList_append, String.toList_ofList, List.mem_append] at escape
  rcases escape with own | blank
  · exact unescaped own
  · exact absurd (List.eq_of_mem_replicate blank) (by decide)

theorem deleteFrom_unescaped {text : List Char} (unescaped : '\x1b' ∉ text) (rest : List Char) :
    deleteFrom 0 (text ++ rest) = text ++ deleteFrom 0 rest := by
  induction text with
  | nil => rfl
  | cons c more ih =>
    obtain ⟨different, others⟩ := List.ne_and_not_mem_of_not_mem_cons unescaped
    have notStyle : lengthAt (c :: (more ++ rest)) = 0 := by
      unfold lengthAt
      split
      · rename_i same
        obtain ⟨rfl, _⟩ := List.cons.inj same
        exact absurd rfl different
      · rfl
    rw [List.cons_append, deleteFrom, notStyle]
    dsimp only
    rw [ih others]
    rfl

theorem deleteFrom_length (skipped rest : List Char) :
    deleteFrom skipped.length (skipped ++ rest) = deleteFrom 0 rest := by
  induction skipped with
  | nil => rfl
  | cons c more ih =>
    rw [List.length_cons, List.cons_append, deleteFrom]
    exact ih

theorem deleteFrom_style {parameters : List Char} (numbers : parameters.all isParameter = true)
    (rest : List Char) :
    deleteFrom 0 ('\x1b' :: '[' :: (parameters ++ 'm' :: rest)) = deleteFrom 0 rest := by
  have each : ∀ c ∈ parameters, isParameter c = true := List.all_eq_true.mp numbers
  have notParameter : isParameter 'm' = false := by decide
  have taken : (parameters ++ 'm' :: rest).takeWhile isParameter = parameters := by
    rw [List.takeWhile_append_of_pos each, List.takeWhile_cons, notParameter]
    simp
  have dropped : (parameters ++ 'm' :: rest).dropWhile isParameter = 'm' :: rest := by
    rw [List.dropWhile_append_of_pos each, List.dropWhile_cons, notParameter]
    simp
  have whole : lengthAt ('\x1b' :: '[' :: (parameters ++ 'm' :: rest)) = parameters.length + 3 := by
    rw [lengthAt, taken, dropped]
    rfl
  have left := deleteFrom_length ('[' :: (parameters ++ ['m'])) rest
  have size : ('[' :: (parameters ++ ['m'])).length = parameters.length + 2 := by simp
  rw [size, List.cons_append, List.append_assoc] at left
  -- the escape character itself is the first of those that are left out
  rw [deleteFrom, whole]
  exact left

/-- A sequence that does not style stays, and so does one without an end. -/
example : Styling.delete "\x1b[1mbold\x1b[0m\x1b[2J\x1b[3" = "bold\x1b[2J\x1b[3" := by decide +kernel

/-! ### Parts of a text -/

/-- In front of any text a styled part reads as the plain one. -/
def ReadsAs (styled plain : String) : Prop :=
  ∀ rest, deleteFrom 0 (styled.toList ++ rest) = plain.toList ++ deleteFrom 0 rest

namespace ReadsAs

variable {styled plain second : String}

theorem delete_eq (reads : ReadsAs styled plain) : delete styled = plain := by
  have whole := reads []
  rw [List.append_nil, deleteFrom, List.append_nil] at whole
  rw [delete, whole, String.ofList_toList]

theorem of_unescaped {text : String} (unescaped : IsUnescaped text) : ReadsAs text text :=
  deleteFrom_unescaped unescaped

theorem append {before after : String} (reads : ReadsAs styled before)
    (more : ReadsAs second after) : ReadsAs (styled ++ second) (before ++ after) := by
  intro rest
  rw [String.toList_append, String.toList_append, List.append_assoc, reads, more, List.append_assoc]

/-- A styling sequence reads as nothing. -/
theorem of_style (parameters : List Char)
    (written : styled.toList = '\x1b' :: '[' :: (parameters ++ ['m']))
    (numbers : parameters.all isParameter = true) : ReadsAs styled "" := by
  intro rest
  have parted : styled.toList ++ rest = '\x1b' :: '[' :: (parameters ++ 'm' :: rest) := by
    rw [written]
    simp
  rw [parted, deleteFrom_style numbers]
  rfl

theorem join {α : Type} {separator : String} (unescaped : IsUnescaped separator)
    {styled plain : α → String} {items : List α}
    (each : ∀ item ∈ items, ReadsAs (styled item) (plain item)) :
    ReadsAs (Text.join separator (items.map styled)) (Text.join separator (items.map plain)) := by
  induction items with
  | nil =>
    intro rest
    rfl
  | cons item others ih =>
    obtain ⟨here, there⟩ := List.forall_mem_cons.mp each
    cases others with
    | nil => simpa [Text.join] using here
    | cons next more =>
      have after := ih there
      simp only [Text.join, List.map_cons, String.intercalate_cons_cons] at after ⊢
      exact (here.append (of_unescaped unescaped)).append after

end ReadsAs

/-! ### Colours -/

theorem all_isParameter_toString (n : Nat) : (toString n).toList.all isParameter = true := by
  rw [Nat.toString_eq_ofList_toDigits, String.toList_ofList]
  apply List.all_eq_true.mpr
  intro c mem
  have digit : c.isDigit = true := Nat.isDigit_of_mem_toDigits (by decide) (by decide) mem
  rw [isParameter, digit]
  rfl

/-- The numbers that switch to a colour. -/
def numbersOf (color : Color) : List Char :=
  ['3', '8', ';', '2', ';'] ++ (toString color.red).toList ++ [';'] ++
    (toString color.green).toList ++ [';'] ++ (toString color.blue).toList

theorem toList_on (color : Color) :
    color.on.toList = '\x1b' :: '[' :: (numbersOf color ++ ['m']) := by
  have text : ∀ s : String, toString s = s := fun _ => rfl
  simp [Color.on, numbersOf, text]

theorem all_isParameter_numbersOf (color : Color) :
    (numbersOf color).all isParameter = true := by
  have start : ['3', '8', ';', '2', ';'].all isParameter = true := by decide
  have semicolon : [';'].all isParameter = true := by decide
  simp only [numbersOf, List.all_append, all_isParameter_toString, start, semicolon, Bool.and_self]

theorem readsAs_on (color : Color) : ReadsAs color.on "" :=
  ReadsAs.of_style _ (toList_on color) (all_isParameter_numbersOf color)

section
variable {text : String}

theorem readsAs_paint (color : Color) (unescaped : IsUnescaped text) :
    ReadsAs (color.paint text) text := by
  have off : ReadsAs "\x1b[39m" "" := ReadsAs.of_style ['3', '9'] rfl (by decide)
  have whole := ((readsAs_on color).append (.of_unescaped unescaped)).append off
  rw [String.empty_append, String.append_empty] at whole
  exact whole

theorem readsAs_paintBold (color : Color) (unescaped : IsUnescaped text) :
    ReadsAs (color.paintBold text) text := by
  have bold : ReadsAs "\x1b[1m" "" := ReadsAs.of_style ['1'] rfl (by decide)
  have off : ReadsAs "\x1b[0m" "" := ReadsAs.of_style ['0'] rfl (by decide)
  have whole := (((readsAs_on color).append bold).append (.of_unescaped unescaped)).append off
  rw [String.empty_append, String.empty_append, String.append_empty] at whole
  exact whole

end

end Styling

/-! ### Blocks and lines -/

open Styling (IsUnescaped ReadsAs)

/-- The texts that a block is made of. -/
def Block.texts : Block → List String
  | text s | success s | heading s | ascii s | pre s => [s]
  | pairs rows separator => separator :: rows.flatMap fun row => [row.1, row.2]
  | listing entries => entries.map (·.name)
  | found lines => lines.flatten.map (·.text)

/-- The texts that a line is made of. -/
def LineData.texts : LineData → List String
  | prompt p input => [p, input]
  | text s => [s]
  | rich blocks => blocks.flatMap Block.texts

namespace LineData

/-- The plain text of a line, with the blank behind a prompt whether or not there is an input. -/
def written : LineData → String
  | prompt p input => p ++ " " ++ input
  | text s => s
  | rich blocks => Rich.plain blocks

theorem written_of_empty (p : String) : (prompt p "").written = (prompt p "").plain ++ " " :=
  String.append_empty

theorem written_of_told {data : LineData} (told : ∀ p, data ≠ .prompt p "") :
    data.written = data.plain := by
  cases data with
  | prompt p input =>
    have some : ¬ input.isEmpty = true := by
      intro none
      obtain rfl : input = "" := by simpa using none
      exact told p rfl
    rw [plain, if_neg some]
    rfl
  | text s => rfl
  | rich blocks => rfl

end LineData

namespace Palette

variable (palette : Palette)

theorem readsAs_entry {entry : ListEntry} (unescaped : IsUnescaped entry.name) :
    ReadsAs (palette.entry entry) entry.name := by
  rw [Palette.entry]
  cases entry.kind with
  | directory => exact Styling.readsAs_paintBold _ unescaped
  | file => exact Styling.readsAs_paint _ unescaped
  | hidden => exact Styling.readsAs_paint _ unescaped

theorem readsAs_span {span : Span} (unescaped : IsUnescaped span.text) :
    ReadsAs (palette.span span) span.text := by
  rw [Palette.span]
  cases span.highlighted with
  | true => exact Styling.readsAs_paintBold _ unescaped
  | false => exact Styling.readsAs_paint _ unescaped

/-- Both rows pad the key in the same way. -/
theorem readsAs_row (width : Nat) {separator : String} {pair : String × String}
    (separatorUnescaped : IsUnescaped separator) (keyUnescaped : IsUnescaped pair.1)
    (valueUnescaped : IsUnescaped pair.2) :
    ReadsAs (palette.row width separator pair) (Block.row width separator pair) := by
  have indent : ReadsAs "  " "  " := .of_unescaped (by decide)
  have key := Styling.readsAs_paint palette.accent (Styling.isUnescaped_padRight width keyUnescaped)
  have between := Styling.readsAs_paint palette.dim separatorUnescaped
  have value := Styling.readsAs_paint palette.foreground valueUnescaped
  exact ((indent.append key).append between).append value

theorem readsAs_block {block : Block} (unescaped : ∀ text ∈ block.texts, IsUnescaped text) :
    ReadsAs (palette.block block) block.plain := by
  have newline : IsUnescaped "\n" := by decide
  cases block with
  | text s => exact Styling.readsAs_paint _ (unescaped s List.mem_cons_self)
  | pre s => exact Styling.readsAs_paint _ (unescaped s List.mem_cons_self)
  | success s => exact Styling.readsAs_paint _ (unescaped s List.mem_cons_self)
  | heading s => exact Styling.readsAs_paintBold _ (unescaped s List.mem_cons_self)
  | ascii s => exact Styling.readsAs_paint _ (unescaped s List.mem_cons_self)
  | pairs rows separator =>
    obtain ⟨between, each⟩ := List.forall_mem_cons.mp unescaped
    apply ReadsAs.join newline
    intro row mem
    have own : ∀ text ∈ [row.1, row.2], IsUnescaped text :=
      fun text h => each text (List.mem_flatMap.mpr ⟨row, mem, h⟩)
    apply palette.readsAs_row _ between
    · exact own row.1 List.mem_cons_self
    · exact own row.2 (List.mem_cons_of_mem _ List.mem_cons_self)
  | listing entries =>
    apply ReadsAs.join (by decide)
    intro entry mem
    exact palette.readsAs_entry (unescaped _ (List.mem_map_of_mem mem))
  | found lines =>
    apply ReadsAs.join newline
    intro spans line
    apply ReadsAs.join (by decide)
    intro span mem
    apply palette.readsAs_span
    apply unescaped
    exact List.mem_map_of_mem (List.mem_flatten.mpr ⟨spans, line, mem⟩)

theorem readsAs_line {line : Line} (unescaped : ∀ text ∈ line.data.texts, IsUnescaped text) :
    ReadsAs (palette.line line) line.data.written := by
  obtain ⟨id, role, data⟩ := line
  cases data with
  | prompt p input =>
    have own := unescaped p List.mem_cons_self
    have typed := unescaped input (List.mem_cons_of_mem _ List.mem_cons_self)
    have blank : ReadsAs " " " " := .of_unescaped (by decide)
    exact ((Styling.readsAs_paint _ own).append blank).append (Styling.readsAs_paint _ typed)
  | text s =>
    have own := unescaped s List.mem_cons_self
    rw [Palette.line]
    dsimp only
    split
    · exact Styling.readsAs_paint _ own
    · exact Styling.readsAs_paint _ own
  | rich blocks =>
    apply ReadsAs.join (by decide)
    intro block mem
    apply palette.readsAs_block
    intro text own
    exact unescaped text (List.mem_flatMap.mpr ⟨block, mem, own⟩)

end Palette

/-- In every theme a coloured line without its styling sequences is the plain text of the line,
with one more blank behind a prompt without input. -/
theorem Theme.delete_line (theme : Theme) {line : Line}
    (unescaped : ∀ text ∈ line.data.texts, IsUnescaped text) :
    (∀ prompt, line.data = .prompt prompt "" →
      Styling.delete (theme.palette.line line) = line.data.plain ++ " ") ∧
    ((∀ prompt, line.data ≠ .prompt prompt "") →
      Styling.delete (theme.palette.line line) = line.data.plain) := by
  have reads := (theme.palette.readsAs_line unescaped).delete_eq
  constructor
  · intro prompt empty
    rw [reads, empty, LineData.written_of_empty]
  · intro told
    rw [reads, LineData.written_of_told told]

/-- Aligned rows, a listing and a found line one below the other, and a prompt without input. -/
theorem Theme.delete_line_of_rows :
    let rows : Line := ⟨7, .output, .rich [.pairs [("ls", "List"), ("help", "Help")] " - ",
      .listing [⟨"projects", .directory⟩, ⟨".rc", .hidden⟩], .found [[⟨"a ", false⟩, ⟨"b", true⟩]]]⟩
    let bare : Line := ⟨8, .input, .prompt "guest@host:~$" ""⟩
    (∀ text ∈ rows.data.texts ++ bare.data.texts, IsUnescaped text) ∧
      Styling.delete (Theme.gruvbox.palette.line rows) =
        "  ls   - List\n  help - Help\nprojects  .rc\na b" ∧
      Styling.delete (Theme.dracula.palette.line bare) = "guest@host:~$ " := by
  intro rows bare
  have unescaped : ∀ text ∈ rows.data.texts ++ bare.data.texts, IsUnescaped text := by
    decide +kernel
  obtain ⟨ofRows, ofBare⟩ := List.forall_mem_append.mp unescaped
  have plain : rows.data.plain = "  ls   - List\n  help - Help\nprojects  .rc\na b" := by
    decide +kernel
  refine ⟨unescaped, ?_, ?_⟩
  · rw [← plain]
    exact (Theme.gruvbox.delete_line ofRows).2 fun _ other => by cases other
  · exact (Theme.dracula.delete_line ofBare).1 _ rfl

end PortfolioShell
