import PortfolioShell.Program.Input
import PortfolioShell.Proofs.Extensions
import PortfolioShell.Proofs.Suggestions
import PortfolioShell.Screen.LineEditor

/-!
# What the line editor offers

The line editor hands the text before the cursor to the session and presses Tab. It is not told what
completion has done: it compares the input with what it handed over, and lists what is suggested if
they are the same. That is enough, since no new line is the one that was typed, and since handing a
text over has dismissed what was suggested for another.
-/
namespace PortfolioShell.LineEditor

/-! ### The text before the cursor -/

theorem takeBytes_front (front rest : List Char) :
    takeBytes (String.ofList front).utf8ByteSize (front ++ rest) = front := by
  induction front with
  | nil =>
    cases rest with
    | nil => rfl
    | cons c rest =>
      have wide : ¬ c.utf8Size ≤ (String.ofList []).utf8ByteSize :=
        Nat.not_le.mpr c.utf8Size_pos
      rw [List.nil_append, takeBytes, if_neg wide]
  | cons c front ih =>
    have size := Input.utf8ByteSize_cons c front
    have fits : c.utf8Size ≤ (String.ofList (c :: front)).utf8ByteSize := by omega
    have left : (String.ofList (c :: front)).utf8ByteSize - c.utf8Size =
        (String.ofList front).utf8ByteSize := by omega
    rw [List.cons_append, takeBytes, if_pos fits, left, ih]

/-- Before a position between two characters stands the text of that size. -/
theorem typed_of_boundary (typed rest : String) :
    String.ofList (takeBytes typed.utf8ByteSize (typed ++ rest).toList) = typed := by
  have front := takeBytes_front typed.toList rest.toList
  rw [String.ofList_toList] at front
  rw [String.toList_append, front, String.ofList_toList]

/-! ### Tab behind a text -/

variable {s : Session Store} {typed : String}

/-- What a session makes of a text when Tab is pressed behind it. -/
def answer (s : Session Store) (typed : String) : Completion :=
  if s.mode.takesCommands then (PortfolioShell.complete typed s.cwd s.setting s.backend).1
  else .nothing

theorem answer_of_commands (takes : s.mode.takesCommands = true) (typed : String) :
    answer s typed = (PortfolioShell.complete typed s.cwd s.setting s.backend).1 :=
  if_pos takes

theorem answer_of_no_commands (busy : s.mode.takesCommands = false) (typed : String) :
    answer s typed = .nothing := by
  rw [answer, busy]
  rfl

/-- No suggestion is left from before, so there is no difference between nothing and an answer
without suggestions. -/
theorem completed_setInput (s : Session Store) (typed : String) (told : Completion) :
    (s.setInput typed).completed told =
      { s with input := told.input.getD typed, suggestions := told.suggestions } := by
  obtain ⟨input, suggestions⟩ := told
  cases input with
  | some other => rfl
  | none =>
    cases suggestions with
    | nil => rfl
    | cons first rest => rfl

theorem tab_setInput (s : Session Store) (typed : String) :
    (s.setInput typed).tab = { s with
      input := (answer s typed).input.getD typed, suggestions := (answer s typed).suggestions } := by
  cases takes : s.mode.takesCommands with
  | true =>
    rw [Session.tab_of_store (s := s.setInput typed) takes, completed_setInput,
      answer_of_commands takes]
    rfl
  | false =>
    rw [Session.tab_of_no_commands (s := s.setInput typed) takes, answer_of_no_commands takes]
    rfl

/-- A new line is another one, and comes without suggestions. -/
theorem answer_of_replaced (named : Completion.WellNamed s.setting s.backend) {other : String}
    (replaced : (answer s typed).input = some other) :
    other ≠ typed ∧ (answer s typed).suggestions = [] := by
  cases takes : s.mode.takesCommands with
  | true =>
    rw [answer_of_commands takes] at replaced ⊢
    obtain ⟨none, different, _⟩ :=
      (Completion.keeps_complete named typed s.cwd).replaced other replaced
    exact ⟨different, none⟩
  | false =>
    rw [answer_of_no_commands takes] at replaced
    cases replaced

theorem isAnswer_answer (s : Session Store) (typed : String) :
    Completion.IsAnswer (answer s typed) := by
  cases takes : s.mode.takesCommands with
  | true =>
    rw [answer_of_commands takes]
    exact Completion.isAnswer_complete typed s.cwd s.setting s.backend
  | false =>
    rw [answer_of_no_commands takes]
    exact .nothing

/-- There never is just one name to choose from. -/
theorem length_suggestions_ne_one (s : Session Store) (typed : String) :
    (answer s typed).suggestions.length ≠ 1 := by
  have answers := isAnswer_answer s typed
  generalize answer s typed = told at answers
  cases answers with
  | nothing => exact Nat.zero_ne_one
  | replacing line => exact Nat.zero_ne_one
  | @listing names several _ =>
    change names.length ≠ 1
    omega

/-! ### What is offered -/

/-- The line editor sees what the session has answered. -/
theorem complete_eq (named : Completion.WellNamed s.setting s.backend) (typed rest : String) :
    complete s (typed ++ rest) typed.utf8ByteSize =
      match (answer s typed).input with
      | some other => ((0, [⟨other, other⟩]), { s with input := other, suggestions := [] })
      | none => ((typed.utf8ByteSize, (answer s typed).suggestions.map (⟨·, ""⟩)),
          { s with input := typed, suggestions := (answer s typed).suggestions }) := by
  unfold complete
  rw [typed_of_boundary]
  dsimp only
  rw [tab_setInput]
  cases told : (answer s typed).input with
  | none => simp
  | some other =>
    obtain ⟨different, none⟩ := answer_of_replaced named told
    simp [different, none]

/-- What the line editor is told where `typed` stands before the cursor, and what the session is
afterwards. -/
structure ChoiceLaw (s : Session Store) (typed : String)
    (told : (Nat × List Choice) × Session Store) : Prop where
  /-- One choice from the start of the line on, the new input, is offered exactly if lines are
  commands and completion makes a new line of what was typed, -/
  offers_iff : told.1 = (0, [⟨told.2.input, told.2.input⟩]) ↔ s.mode.takesCommands = true ∧
    ∃ other, (PortfolioShell.complete typed s.cwd s.setting s.backend).1.input = some other
  /-- and it is that line. -/
  replaced : s.mode.takesCommands = true → ∀ other,
    (PortfolioShell.complete typed s.cwd s.setting s.backend).1.input = some other →
      told.2.input = other
  /-- Otherwise the line is left as it is, and what is listed inserts nothing. -/
  left : told.1 ≠ (0, [⟨told.2.input, told.2.input⟩]) →
    told.1.1 = typed.utf8ByteSize ∧ told.2.input = typed ∧
      (∀ choice ∈ told.1.2, choice.inserted = "") ∧
      told.1.2.map (·.shown) = told.2.suggestions
  /-- What is suggested is what completion suggests for what was typed, -/
  suggested : s.mode.takesCommands = true → told.2.suggestions =
    (PortfolioShell.complete typed s.cwd s.setting s.backend).1.suggestions
  /-- and nothing where lines are no commands. -/
  silent : s.mode.takesCommands = false → told.1.2 = [] ∧ told.2.suggestions = []
  /-- Nothing else of the session changes. -/
  frame : told.2 = { s with input := told.2.input, suggestions := told.2.suggestions }

theorem takes_of_replaced {other : String} (found : (answer s typed).input = some other) :
    s.mode.takesCommands = true := by
  cases takes : s.mode.takesCommands with
  | true => rfl
  | false =>
    rw [answer_of_no_commands takes] at found
    cases found

theorem choiceLaw_of_replaced {other : String} (found : (answer s typed).input = some other)
    (none : (answer s typed).suggestions = []) :
    ChoiceLaw s typed ((0, [⟨other, other⟩]), { s with input := other, suggestions := [] }) := by
  have takes := takes_of_replaced found
  rw [answer_of_commands takes] at found none
  constructor
  case offers_iff =>
    constructor
    · exact fun _ => ⟨takes, other, found⟩
    · exact fun _ => rfl
  case replaced =>
    intro _ line replaced
    exact Option.some.inj (found.symm.trans replaced)
  case left => exact fun different => absurd rfl different
  case suggested => exact fun _ => none.symm
  case silent =>
    intro busy
    rw [takes] at busy
    cases busy
  case frame => rfl

theorem choiceLaw_of_left (found : (answer s typed).input = none) :
    ChoiceLaw s typed ((typed.utf8ByteSize, (answer s typed).suggestions.map (⟨·, ""⟩)),
      { s with input := typed, suggestions := (answer s typed).suggestions }) := by
  have unreplaced (takes : s.mode.takesCommands = true) :
      (PortfolioShell.complete typed s.cwd s.setting s.backend).1.input = none := by
    rw [← answer_of_commands takes, found]
  constructor
  case offers_iff =>
    constructor
    · intro same
      have single := congrArg List.length (Prod.mk.inj same).2
      rw [List.length_map] at single
      exact absurd single (length_suggestions_ne_one s typed)
    · rintro ⟨takes, other, replaced⟩
      cases (unreplaced takes).symm.trans replaced
  case replaced =>
    intro takes other replaced
    cases (unreplaced takes).symm.trans replaced
  case left =>
    intro _
    refine ⟨rfl, rfl, ?_, ?_⟩
    · intro choice mem
      obtain ⟨name, _, rfl⟩ := List.mem_map.mp mem
      rfl
    · simp [Function.comp_def]
  case suggested =>
    intro takes
    rw [answer_of_commands takes]
  case silent =>
    intro busy
    rw [answer_of_no_commands busy]
    exact ⟨rfl, rfl⟩
  case frame => rfl

/-- In every session over a store with well-formed names, at every position between two characters:
the line editor offers just what completion answers to the text before the cursor. -/
theorem choiceLaw_of_named (named : Completion.WellNamed s.setting s.backend)
    (typed rest : String) :
    ChoiceLaw s typed (complete s (typed ++ rest) typed.utf8ByteSize) := by
  rw [complete_eq named]
  cases found : (answer s typed).input with
  | none => exact choiceLaw_of_left found
  | some other => exact choiceLaw_of_replaced found (answer_of_replaced named found).2

/-- A session in the tutorial that still suggests what Tab has listed for another line. -/
def inTutorial : Session Store :=
  { Session.ofBuiltin with
    backend := (Store.empty "" (.ticking ⟨0, 0⟩)).addPost
      ⟨0, "Rust", "rust-Async", none, true, none, ⟨0, 0⟩, 1, []⟩
    mode := .tutorial 0
    input := "t"
    suggestions := ["theme", "tutorial"] }

/-- A slug in capitals before the cursor and a name of two bytes a character behind it. -/
theorem choiceLaw_after_show :
    Completion.WellNamed inTutorial.setting inTutorial.backend ∧
      ChoiceLaw inTutorial "post show RUST"
        (complete inTutorial ("post show RUST" ++ "éé") 14) ∧
      (complete inTutorial ("post show RUST" ++ "éé") 14).1 =
        (0, [⟨"post show rust-Async ", "post show rust-Async "⟩]) := by
  have named : Completion.WellNamed inTutorial.setting inTutorial.backend :=
    ⟨by decide +kernel, by decide +kernel, by decide +kernel⟩
  exact ⟨named, choiceLaw_of_named named "post show RUST" "éé", by decide +kernel⟩

end PortfolioShell.LineEditor
