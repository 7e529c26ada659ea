import Mathlib.Data.List.Induction
import PortfolioShell.Proofs.Completions
import PortfolioShell.Proofs.Modes

/-!
# Suggestions

Names are suggested by Tab, and only for the input and the directory that it was pressed at. Every
other change of the input dismisses them, and so does every line; a completed word takes their place.
Lines alone lead from the modes of commands to other modes and to other directories. So what is
suggested always is an answer to the present input, however long ago it was asked for.
-/
namespace PortfolioShell

/-! ### Answers of completion -/

namespace Completion

/-- An answer is nothing, a new line, or several names in order, never two of them. -/
inductive IsAnswer : Completion → Prop
  | nothing : IsAnswer nothing
  | replacing (line : String) : IsAnswer (replacing line)
  | listing {names : List String} (several : 2 ≤ names.length)
      (ordered : names.Pairwise (· ≤ ·)) : IsAnswer (listing names)

theorem isAnswer_listing_sorted {names : List String} (several : 2 ≤ names.length) :
    IsAnswer (listing (sorted names)) := by
  have size := (sorted_perm names).length_eq
  exact .listing (by omega) (sorted_pairwise names)

theorem isAnswer_ofCandidates (before typed : String) (names : List String)
    (ending : String → String) : IsAnswer (ofCandidates before typed names ending) := by
  match names with
  | [] => exact .nothing
  | [only] => exact .replacing _
  | first :: second :: rest =>
    simp only [ofCandidates]
    split
    · exact .replacing _
    · exact isAnswer_listing_sorted (by simp)

theorem isAnswer_ofCommand (registry : Registry) (word : String) :
    IsAnswer (ofCommand registry word) := by
  rw [ofCommand]
  rcases registry.namesBeginning word with _ | ⟨first, _ | ⟨second, rest⟩⟩
  · exact .nothing
  · exact .replacing _
  · exact isAnswer_listing_sorted (by simp)

theorem isAnswer_ofPath (earlier : List String) (word cwd : String) (tree : Tree) :
    IsAnswer (ofPath earlier word cwd tree) := by
  unfold ofPath
  cases Path.cutLast word with
  | mk dir name =>
    dsimp only
    split
    · exact isAnswer_ofCandidates _ _ _ _
    · exact .nothing

section
variable {σ : Type} [Backend σ]

theorem isAnswer_ofSlug (sub word : String) (backend : σ) :
    IsAnswer (ofSlug sub word backend).1 := by
  rw [ofSlug]
  split
  · exact .nothing
  · rw [bind_apply]
    dsimp only
    split
    · exact .nothing
    · rw [bind_apply]
      cases (Backend.searchSlugs word (Backend.currentUser backend).2).1 with
      | error e => exact .nothing
      | ok hits => exact isAnswer_ofCandidates _ _ _ _

/-- Whatever the backend says, completion does not replace the line and list names at once. -/
theorem isAnswer_complete (line cwd : String) (setting : Setting) (backend : σ) :
    IsAnswer (complete line cwd setting backend).1 := by
  cases hk : kindOf (partialWords line) with
  | command =>
    simp only [complete, hk, pure_apply]
    exact isAnswer_ofCommand _ _
  | subcommand =>
    simp only [complete, hk, pure_apply]
    exact isAnswer_ofCandidates _ _ _ _
  | path =>
    simp only [complete, hk, pure_apply]
    exact isAnswer_ofPath _ _ _ _
  | slug =>
    simp only [complete, hk]
    exact isAnswer_ofSlug _ _ _
  | other =>
    simp only [complete, hk, pure_apply]
    exact .nothing

end

end Completion

namespace Session

variable {σ : Type}

/-! ### What leaves suggestions alone -/

theorem suggestions_accept (s : Session σ) (output : Output) :
    (s.accept output).suggestions = s.suggestions := by
  cases output with
  | text text =>
    rw [accept]
    split <;> rfl
  | rich blocks =>
    rw [accept]
    split <;> rfl
  | clear => rfl
  | directive directive => cases directive <;> rfl

theorem suggestions_acting (s : Session σ) (outcome : Dispatch) :
    (s.acting outcome).suggestions = s.suggestions := by
  rw [acting]
  split
  · exact suggestions_accept _ _
  · rfl

theorem suggestions_exitProgram (s : Session σ) : s.exitProgram.suggestions = s.suggestions := by
  rw [exitProgram]
  split <;> rfl

/-- What is typed, where, and in which mode. -/
def typing (s : Session σ) : String × String × Mode := (s.input, s.cwd, s.mode)

variable [Backend σ]

theorem suggestions_saveEdit (s : Session σ) (content : String) :
    (s.saveEdit content).suggestions = s.suggestions := by
  rw [saveEdit]
  split
  · simp only [ask_eq]
    split <;> rfl
  · rfl

theorem suggestions_runTutorial (s : Session σ) (step : Nat) (line : String) :
    (s.runTutorial step line).suggestions = s.suggestions := by
  rw [runTutorial]
  split
  · rfl
  · split
    · rfl
    · rfl
    · rw [runAccepted_eq]
      rfl

/-! ### What dismisses them -/

theorem suggestions_submitText {s : Session σ} (none : s.suggestions = []) (line : String)
    {run : Session σ → Session σ}
    (kept : ∀ t : Session σ, (run t).suggestions = t.suggestions) :
    (s.submitText line run).suggestions = [] := by
  cases blank : Text.isBlankText line with
  | true =>
    rw [submitText_blank blank]
    exact none
  | false =>
    rw [submitText_told blank]
    exact (kept (s.taking line)).trans none

/-- A line dismisses suggestions in every mode, before anything else happens. -/
theorem suggestions_submitLine (s : Session σ) (line : String) :
    (s.submitLine line).suggestions = [] := by
  cases mode : s.mode with
  | running program =>
    rw [submitLine_running mode]
    rfl
  | password action =>
    rw [submitLine_password mode, submitPassword_eq]
    rfl
  | normal =>
    rw [submitLine_normal mode]
    refine suggestions_submitText (s := s.setInput "") rfl line fun t => ?_
    rw [runCommand_eq]
    exact suggestions_acting _ _
  | tutorial step =>
    rw [submitLine_tutorial mode]
    exact suggestions_submitText (s := s.setInput "") rfl line fun t =>
      suggestions_runTutorial t step line

/-- Nothing is suggested where lines are no commands. -/
def IsIdle (s : Session σ) : Prop := s.mode.takesCommands = false → s.suggestions = []

omit [Backend σ] in
theorem IsIdle.of_running {s : Session σ} (idle : s.IsIdle) {program : Subprogram}
    (h : s.mode = .running program) : s.suggestions = [] := idle (by rw [h]; rfl)

end Session

/-- Whether an event writes to the input, and does not ask what it could become. -/
def Event.writesInput : Event → Bool
  | .submit | .submitLine _ | .setInput _ | .historyUp | .historyDown => true
  | _ => false

namespace Session

variable {σ : Type} {s : Session σ} {event : Event}

theorem suggestions_historyUp (idle : s.IsIdle) : s.historyUp.suggestions = [] := by
  rw [historyUp]
  split
  · rename_i program running
    exact idle.of_running running
  · rfl

theorem suggestions_historyDown (idle : s.IsIdle) : s.historyDown.suggestions = [] := by
  rw [historyDown]
  split
  · rename_i program running
    exact idle.of_running running
  · rfl

theorem shown_of_same {t : Session σ} (same : t = s) (listing : Prop) :
    t.typing = s.typing ∧ (t.suggestions = s.suggestions ∨ listing) :=
  ⟨by rw [same], Or.inl (by rw [same])⟩

variable [Backend σ]

theorem dismissed_of_writesInput (idle : s.IsIdle) (writes : event.writesInput = true) :
    (s.step event).suggestions = [] := by
  cases event with
  | submit => exact s.suggestions_submitLine s.input
  | submitLine line => exact s.suggestions_submitLine line
  | setInput input => rfl
  | historyUp => exact suggestions_historyUp idle
  | historyDown => exact suggestions_historyDown idle
  | _ => cases writes

/-- Names that Tab lists. -/
structure Lists (s : Session σ) (names : List String) : Prop where
  takesCommands : s.mode.takesCommands = true
  answer : (complete s.input s.cwd s.setting s.backend).1 = .listing names

theorem Lists.several_ordered {names : List String} (lists : s.Lists names) (some : names ≠ []) :
    2 ≤ names.length ∧ names.Pairwise (· ≤ ·) := by
  have answers := Completion.isAnswer_complete s.input s.cwd s.setting s.backend
  rw [lists.answer] at answers
  generalize answer : Completion.listing names = completion at answers
  cases answers with
  | nothing => exact absurd (Completion.mk.inj answer).2 some
  | replacing line => cases answer
  | listing several ordered =>
    cases answer
    exact ⟨several, ordered⟩

/-- Tab makes nothing of the input and changes nothing of it, or replaces it, or lists names. -/
theorem tab_cases (s : Session σ) :
    (s.tab.typing = s.typing ∧ s.tab.suggestions = s.suggestions) ∨ s.tab.suggestions = [] ∨
      (s.tab.typing = s.typing ∧ s.Lists s.tab.suggestions) := by
  cases takes : s.mode.takesCommands with
  | false =>
    rw [tab_of_no_commands takes]
    exact Or.inl ⟨rfl, rfl⟩
  | true =>
    rw [tab_of_commands takes]
    have answers := Completion.isAnswer_complete s.input s.cwd s.setting s.backend
    generalize answer : (complete s.input s.cwd s.setting s.backend).1 = completion at answers ⊢
    cases answers with
    | nothing => exact Or.inl ⟨rfl, rfl⟩
    | replacing line => exact Or.inr (Or.inl rfl)
    | @listing names several ordered =>
      have some : (Completion.listing names).isEmpty = false := by
        match names with
        | [] => simp at several
        | first :: rest => rfl
      rw [completed, some]
      exact Or.inr (Or.inr ⟨rfl, takes, answer⟩)

theorem suggestions_tab_of_replaced (takes : s.mode.takesCommands = true)
    (replaced : (complete s.input s.cwd s.setting s.backend).1.input ≠ none) :
    s.tab.suggestions = [] := by
  rw [tab_of_commands takes]
  have answers := Completion.isAnswer_complete s.input s.cwd s.setting s.backend
  generalize (complete s.input s.cwd s.setting s.backend).1 = completion at answers replaced ⊢
  cases answers with
  | replacing line => rfl
  | _ => exact absurd rfl replaced

/-! ### What they were listed for -/

/-- What an event does to suggestions. -/
structure SuggestionLaw (s : Session σ) (event : Event) : Prop where
  /-- An edit, a line and a line of the history dismiss them, -/
  dismissed : event.writesInput = true → (s.step event).suggestions = []
  /-- and so does a completed word. -/
  replaced : event = .tab → s.mode.takesCommands = true →
    (complete s.input s.cwd s.setting s.backend).1.input ≠ none → (s.step event).suggestions = []
  /-- What is suggested afterwards is suggested for the same input in the same directory and mode,
  and either it was before or Tab has just listed it. -/
  shown : (s.step event).suggestions ≠ [] → (s.step event).typing = s.typing ∧
    ((s.step event).suggestions = s.suggestions ∨
      event = .tab ∧ s.Lists (s.step event).suggestions)

theorem shown_step (idle : s.IsIdle) (shown : (s.step event).suggestions ≠ []) :
    (s.step event).typing = s.typing ∧ ((s.step event).suggestions = s.suggestions ∨
      event = .tab ∧ s.Lists (s.step event).suggestions) := by
  -- Only a full-screen program could end without a line, and then nothing is suggested.
  have busy {t : Session σ} (kept : t.suggestions = s.suggestions) (some : t.suggestions ≠ []) :
      ∀ program, s.mode ≠ .running program := by
    intro program running
    exact some (kept.trans (idle.of_running running))
  cases event with
  | tab =>
    rcases s.tab_cases with ⟨typing, same⟩ | none | ⟨typing, lists⟩
    · exact ⟨typing, Or.inl same⟩
    · exact absurd none shown
    · exact ⟨typing, Or.inr ⟨rfl, lists⟩⟩
  | sync => exact ⟨rfl, Or.inl rfl⟩
  | setTheme theme => exact ⟨rfl, Or.inl rfl⟩
  | exitProgram =>
    have free := busy s.suggestions_exitProgram shown
    exact shown_of_same (exitProgram_of_not_running free) _
  | saveEdit content =>
    have free := busy (s.suggestions_saveEdit content) shown
    exact shown_of_same (saveEdit_of_not_editing (fun post => free (.editor post)) content) _
  | cancelEdit =>
    have kept : s.cancelEdit.suggestions = s.suggestions := by
      rw [cancelEdit]
      split
      · exact s.suggestions_exitProgram
      · rfl
    have free := busy kept shown
    exact shown_of_same (cancelEdit_of_not_editing fun post => free (.editor post)) _
  | _ => exact absurd (dismissed_of_writesInput idle rfl) shown

theorem suggestionLaw_of_idle (idle : s.IsIdle) (event : Event) : s.SuggestionLaw event where
  dismissed := dismissed_of_writesInput idle
  replaced := by
    rintro rfl takes replaced
    exact suggestions_tab_of_replaced takes replaced
  shown := shown_step idle

/-- What lies between events does not touch suggestions. -/
theorem shown_move {m : Move σ} (idle : s.IsIdle) (shown : (s.move m).suggestions ≠ []) :
    (s.move m).typing = s.typing ∧ ((s.move m).suggestions = s.suggestions ∨
      m = .event .tab ∧ s.Lists (s.move m).suggestions) := by
  cases m with
  | event event =>
    obtain ⟨typing, same | ⟨rfl, lists⟩⟩ := shown_step idle shown
    · exact ⟨typing, Or.inl same⟩
    · exact ⟨typing, Or.inr ⟨rfl, lists⟩⟩
  | _ => exact ⟨rfl, Or.inl rfl⟩

/-- Tab has listed what is suggested at the end of a run, for what is typed there, and both have
stood since. -/
structure Stands (s : Session σ) (before after : List (Move σ)) (last : Session σ) : Prop where
  typing : (s.moves before).typing = last.typing
  lists : (s.moves before).Lists last.suggestions
  since : ∀ more, more <+: after →
    (s.moves (before ++ .event .tab :: more)).typing = last.typing ∧
      (s.moves (before ++ .event .tab :: more)).suggestions = last.suggestions

theorem Stands.takesCommands {before after : List (Move σ)} {last : Session σ}
    (stands : s.Stands before after last) : last.mode.takesCommands = true := by
  have mode : (s.moves before).mode = last.mode := congrArg (·.2.2) stands.typing
  exact mode ▸ stands.lists.takesCommands

theorem isIdle_of_stands {run : List (Move σ)} {last : Session σ}
    (stood : last.suggestions ≠ [] → ∃ before after,
      run = before ++ .event .tab :: after ∧ s.Stands before after last) : last.IsIdle := by
  intro other
  by_cases none : last.suggestions = []
  · exact none
  · obtain ⟨before, after, _, stands⟩ := stood none
    exact Bool.noConfusion (other.symm.trans stands.takesCommands)

/-- Whatever is suggested in the end was listed in the run. -/
theorem exists_stands (none : s.suggestions = []) (run : List (Move σ)) :
    (s.moves run).suggestions ≠ [] → ∃ before after,
      run = before ++ .event .tab :: after ∧ s.Stands before after (s.moves run) := by
  induction run using List.reverseRecOn with
  | nil => exact fun shown => absurd none shown
  | append_singleton run m ih =>
    intro shown
    have idle : (s.moves run).IsIdle := isIdle_of_stands ih
    have last : s.moves (run ++ [m]) = (s.moves run).move m := moves_append s run [m]
    rw [last] at shown ⊢
    obtain ⟨typing, same | ⟨rfl, lists⟩⟩ := shown_move idle shown
    · obtain ⟨before, after, rfl, stands⟩ := ih (same ▸ shown)
      refine ⟨before, after ++ [m], by simp, stands.typing.trans typing.symm, ?_, ?_⟩
      · exact same ▸ stands.lists
      · intro more upTo
        rcases List.prefix_concat_iff.mp upTo with rfl | upTo
        · have whole : before ++ .event .tab :: (after ++ [m]) =
              before ++ .event .tab :: after ++ [m] := by simp
          rw [whole, last]
          exact ⟨rfl, rfl⟩
        · obtain ⟨sameTyping, sameSuggestions⟩ := stands.since more upTo
          exact ⟨sameTyping.trans typing.symm, sameSuggestions.trans same.symm⟩
    · refine ⟨run, [], rfl, typing.symm, lists, ?_⟩
      intro more upTo
      rw [List.prefix_nil.mp upTo, last]
      exact ⟨rfl, rfl⟩

/-- In every run: what is suggested are several names in order, which Tab has listed for the present
input in the present directory and mode, and every event that could make them stale dismisses
them. -/
theorem suggestions_of_run (backend : σ) (site : Site) (host : Host) (run : List (Move σ)) :
    let s := (start backend site host).moves run
    (s.suggestions ≠ [] → s.mode.takesCommands = true ∧ 2 ≤ s.suggestions.length ∧
      s.suggestions.Pairwise (· ≤ ·) ∧ ∃ before after, run = before ++ .event .tab :: after ∧
        (start backend site host).Stands before after s) ∧
    ∀ event, s.SuggestionLaw event := by
  intro s
  have stood := exists_stands (s := start backend site host) rfl run
  refine ⟨fun some => ?_, suggestionLaw_of_idle (isIdle_of_stands stood)⟩
  obtain ⟨before, after, split, stands⟩ := stood some
  obtain ⟨several, ordered⟩ := stands.lists.several_ordered some
  exact ⟨stands.takesCommands, several, ordered, before, after, split, stands⟩

theorem complete_t (cwd : String) (backend : Store) :
    (complete "t" cwd ofBuiltin.setting backend).1 = .listing ["theme", "tutorial"] := by
  have kind : Completion.kindOf (partialWords "t") = .command := by decide +kernel
  have word : (partialWords "t").getLast?.getD "" = "t" := by decide +kernel
  have names : ofBuiltin.setting.registry.namesBeginning "t" = ["theme", "tutorial"] := by
    decide +kernel
  have inOrder : Completion.sorted ["theme", "tutorial"] = ["theme", "tutorial"] :=
    List.mergeSort_of_pairwise (by decide +kernel)
  simp only [complete, kind, word, Completion.ofCommand, names, inOrder, pure_apply]

/-- Names that Tab has listed outlast another theme, and a line of the history dismisses them. -/
theorem suggestions_after_tab :
    let run : List (Move Store) := [.event (.setInput "t"), .event .tab,
      .event (.setTheme .dracula), .withScrollback 5]
    let s := ofBuiltin.moves run
    s.suggestions = ["theme", "tutorial"] ∧ s.mode.takesCommands = true ∧
      (∃ before after, run = before ++ .event .tab :: after ∧ ofBuiltin.Stands before after s) ∧
        (s.step .historyUp).suggestions = [] := by
  intro run s
  have listed : s.suggestions = ["theme", "tutorial"] := by
    change (ofBuiltin.setInput "t").tab.suggestions = _
    rw [tab_of_commands rfl]
    exact complete_t Path.root ofBuiltin.backend ▸ rfl
  obtain ⟨shown, law⟩ := suggestions_of_run (.empty "" (.ticking ⟨0, 0⟩)) .builtin (.at ⟨⟨0, 0⟩, 0⟩) run
  have some : s.suggestions ≠ [] := by
    rw [listed]
    exact List.cons_ne_nil _ _
  obtain ⟨takes, _, _, stood⟩ := shown some
  exact ⟨listed, takes, stood, (law .historyUp).dismissed rfl⟩

end Session

end PortfolioShell
