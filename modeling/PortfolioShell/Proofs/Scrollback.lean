import PortfolioShell.Proofs.Sessions

/-!
# What events add to the scrollback

An event adds no line, a notice of the terminal itself, or the echo of a typed line. Behind the echo
at most one line answers, or the scrollback is cleared. So no event adds more than one line that the
screen prints, and that line is the newest one. A scrollback of a single line therefore holds it.
-/
namespace PortfolioShell

/-- The kept lines, the number of the next line, and how often the lines were cleared. -/
structure Scrollback where
  lines : Ring Line
  nextId : Nat
  epoch : Nat

namespace Scrollback

/-- The next line that is added. -/
def next (b : Scrollback) (role : LineRole) (data : LineData) : Line := ⟨b.nextId, role, data⟩

/-- Adds a line under the next number. -/
def print (b : Scrollback) (role : LineRole) (data : LineData) : Scrollback :=
  { b with lines := b.lines.insert (b.next role data), nextId := b.nextId + 1 }

/-- Drops the lines and begins a new epoch. -/
def clear (b : Scrollback) : Scrollback := { b with lines := b.lines.clear, epoch := b.epoch + 1 }

/-- What may follow the echo of a typed line, with the lines that it adds. -/
inductive Replies (b : Scrollback) : Scrollback → List Line → Prop
  | silent : Replies b b []
  | answer (data : LineData) : Replies b (b.print .output data) [b.next .output data]
  | cleared : Replies b b.clear []

/-- What an event may do to the scrollback, with the lines that it adds. -/
inductive Adds (b : Scrollback) : Scrollback → List Line → Prop
  | nothing : Adds b b []
  | notice (data : LineData) : Adds b (b.print .system data) [b.next .system data]
  | typed (data : LineData) {c : Scrollback} {lines : List Line} :
      Replies (b.print .input data) c lines → Adds b c (b.next .input data :: lines)

/-! ### Numbers of lines -/

/-- The kept lines stand in the order of their numbers, and all numbers have been given out. -/
structure Numbered (b : Scrollback) : Prop where
  increasing : b.lines.items.Pairwise (·.id < ·.id)
  below : ∀ line ∈ b.lines.items, line.id < b.nextId

variable {b c : Scrollback} {lines : List Line}

theorem items_print (b : Scrollback) (role : LineRole) (data : LineData) :
    ∃ kept, kept <:+ b.lines.items ∧
      (b.print role data).lines.items = kept ++ [b.next role data] :=
  b.lines.exists_kept (b.next role data)

theorem mem_print {role : LineRole} {data : LineData} {line : Line}
    (h : line ∈ (b.print role data).lines.items) :
    line ∈ b.lines.items ∨ line = b.next role data := by
  obtain ⟨kept, suffix, hitems⟩ := b.items_print role data
  rw [hitems, List.mem_append, List.mem_singleton] at h
  exact h.imp_left (suffix.mem ·)

theorem Numbered.print (numbered : Numbered b) (role : LineRole) (data : LineData) :
    Numbered (b.print role data) where
  increasing := by
    obtain ⟨kept, suffix, hitems⟩ := b.items_print role data
    rw [hitems, List.pairwise_append]
    refine ⟨numbered.increasing.sublist suffix.sublist, List.pairwise_singleton .., ?_⟩
    intro line hline newest hnewest
    rw [List.mem_singleton.mp hnewest]
    exact numbered.below line (suffix.mem hline)
  below := by
    intro line hline
    rcases mem_print hline with old | rfl
    · exact Nat.lt_succ_of_lt (numbered.below line old)
    · exact Nat.lt_succ_self b.nextId

theorem numbered_clear (b : Scrollback) : Numbered b.clear where
  increasing := by simp [clear]
  below := by simp [clear]

/-- Added lines bear the numbers that are given out, without a gap. -/
theorem Replies.ids (replies : Replies b c lines) :
    lines.map (·.id) = List.range' b.nextId lines.length ∧
      c.nextId = b.nextId + lines.length := by
  cases replies <;> exact ⟨rfl, rfl⟩

theorem Adds.ids (adds : Adds b c lines) :
    lines.map (·.id) = List.range' b.nextId lines.length ∧
      c.nextId = b.nextId + lines.length := by
  cases adds with
  | nothing => exact ⟨rfl, rfl⟩
  | notice data => exact ⟨rfl, rfl⟩
  | typed data replies =>
    obtain ⟨ids, nextId⟩ := replies.ids
    refine ⟨?_, ?_⟩
    · rw [List.map_cons, ids, List.length_cons, List.range'_succ]
      rfl
    · rw [nextId, List.length_cons]
      simp only [print]
      omega

end Scrollback

namespace Session

variable {σ : Type}

/-- The scrollback of a session. -/
def scrollback (s : Session σ) : Scrollback := ⟨s.lines, s.nextId, s.epoch⟩

open Scrollback

/-! ### What an event adds -/

theorem replies_accept (s : Session σ) (output : Output) :
    ∃ lines, Replies s.scrollback (s.accept output).scrollback lines := by
  cases output with
  | text text =>
    rw [accept]
    split
    · exact ⟨_, .silent⟩
    · exact ⟨_, .answer (.text text)⟩
  | rich blocks =>
    rw [accept]
    split
    · exact ⟨_, .silent⟩
    · exact ⟨_, .answer (.rich blocks)⟩
  | clear => exact ⟨_, .cleared⟩
  | directive directive =>
    cases directive with
    | requestPassword action => exact ⟨_, .silent⟩
    | setTheme theme => exact ⟨_, .answer _⟩
    | startTutorial => exact ⟨_, .answer _⟩
    | startGame => exact ⟨_, .answer _⟩
    | openViewer filename content => exact ⟨_, .silent⟩
    | openEditor post => exact ⟨_, .silent⟩

theorem replies_acting (s : Session σ) (outcome : Dispatch) :
    ∃ lines, Replies s.scrollback (s.acting outcome).scrollback lines := by
  rw [acting]
  split
  · exact replies_accept (s.moveTo outcome.cwd) _
  · exact ⟨_, .silent⟩

theorem adds_exitProgram (s : Session σ) :
    ∃ lines, Adds s.scrollback s.exitProgram.scrollback lines := by
  rw [exitProgram]
  split
  · exact ⟨_, .notice _⟩
  · exact ⟨_, .nothing⟩

theorem scrollback_historyUp (s : Session σ) : s.historyUp.scrollback = s.scrollback := by
  rw [historyUp]
  split <;> rfl

theorem scrollback_historyDown (s : Session σ) : s.historyDown.scrollback = s.scrollback := by
  rw [historyDown]
  split <;> rfl

variable [Backend σ]

theorem replies_runCommand (s : Session σ) (line : String) :
    ∃ lines, Replies s.scrollback (s.runCommand line).scrollback lines := by
  rw [runCommand_eq]
  exact replies_acting (s.withBackend (dispatch line s.setting s.cwd s.backend).2) _

theorem replies_runTutorial (s : Session σ) (step : Nat) (line : String) :
    ∃ lines, Replies s.scrollback (s.runTutorial step line).scrollback lines := by
  rw [runTutorial]
  split
  · exact ⟨_, .silent⟩
  · split
    · exact ⟨_, .answer _⟩
    · exact ⟨_, .answer _⟩
    · rw [runAccepted_eq]
      exact ⟨_, .answer _⟩

theorem adds_submitText {s : Session σ} {line : String} {run : Session σ → Session σ}
    (replies : ∀ s, ∃ lines, Replies s.scrollback (run s).scrollback lines) :
    ∃ lines, Adds s.scrollback (s.submitText line run).scrollback lines := by
  cases blank : Text.isBlankText line with
  | true =>
    rw [submitText_blank blank]
    exact ⟨_, .typed _ .silent⟩
  | false =>
    rw [submitText_told blank]
    obtain ⟨lines, added⟩ := replies (s.taking line)
    exact ⟨_, .typed _ added⟩

theorem adds_submitLine (s : Session σ) (line : String) :
    ∃ lines, Adds s.scrollback (s.submitLine line).scrollback lines := by
  cases mode : s.mode with
  | normal =>
    rw [submitLine_normal mode]
    exact adds_submitText (s := s.setInput "") fun s => s.replies_runCommand line
  | tutorial step =>
    rw [submitLine_tutorial mode]
    exact adds_submitText (s := s.setInput "") fun s => s.replies_runTutorial step line
  | password action =>
    rw [submitLine_password mode, submitPassword_eq]
    exact ⟨_, .typed _ (.answer _)⟩
  | running program =>
    rw [submitLine_running mode]
    exact ⟨_, .nothing⟩

theorem scrollback_tab (s : Session σ) : s.tab.scrollback = s.scrollback := by
  cases h : s.mode.takesCommands with
  | true =>
    rw [tab_of_commands h, completed]
    split <;> rfl
  | false => rw [tab_of_no_commands h]

theorem adds_saveEdit (s : Session σ) (content : String) :
    ∃ lines, Adds s.scrollback (s.saveEdit content).scrollback lines := by
  rw [saveEdit]
  split
  · rw [ask_eq]
    simp only
    split
    · exact ⟨_, .notice _⟩
    · exact ⟨_, .notice _⟩
  · exact ⟨_, .nothing⟩

theorem adds_step (s : Session σ) (event : Event) :
    ∃ lines, Adds s.scrollback (s.step event).scrollback lines := by
  cases event with
  | submit => exact s.adds_submitLine s.input
  | submitLine line => exact s.adds_submitLine line
  | tab =>
    rw [step, scrollback_tab]
    exact ⟨_, .nothing⟩
  | setInput input => exact ⟨_, .nothing⟩
  | historyUp =>
    rw [step, scrollback_historyUp]
    exact ⟨_, .nothing⟩
  | historyDown =>
    rw [step, scrollback_historyDown]
    exact ⟨_, .nothing⟩
  | exitProgram => exact s.adds_exitProgram
  | saveEdit content => exact s.adds_saveEdit content
  | cancelEdit =>
    rw [step, cancelEdit]
    split
    · exact s.adds_exitProgram
    · exact ⟨_, .nothing⟩
  | sync => exact ⟨_, .nothing⟩
  | setTheme theme => exact ⟨_, .nothing⟩

/-- The lines that events add one after the other. -/
inductive Logged : Session σ → List Event → List Line → Prop
  | nil (s : Session σ) : Logged s [] []
  | cons {s : Session σ} {event : Event} {events : List Event} {lines more : List Line} :
      Adds s.scrollback (s.step event).scrollback lines → Logged (s.step event) events more →
        Logged s (event :: events) (lines ++ more)

theorem exists_logged (s : Session σ) (events : List Event) : ∃ log, Logged s events log := by
  induction events generalizing s with
  | nil => exact ⟨[], .nil s⟩
  | cons event rest ih =>
    obtain ⟨lines, adds⟩ := s.adds_step event
    obtain ⟨more, logged⟩ := ih (s.step event)
    exact ⟨lines ++ more, .cons adds logged⟩

/-- A log misses no line: it holds one for every number that was given out. -/
theorem Logged.ids {s : Session σ} {events : List Event} {log : List Line}
    (logged : Logged s events log) :
    log.map (·.id) = List.range' s.nextId log.length ∧
      (s.run events).nextId = s.nextId + log.length := by
  induction logged with
  | nil s => exact ⟨rfl, rfl⟩
  | @cons s event events lines more adds logged ih =>
    obtain ⟨ids, nextId⟩ := adds.ids
    obtain ⟨moreIds, lastId⟩ := ih
    have before : (s.step event).nextId = s.nextId + lines.length := nextId
    have after : (s.run (event :: events)).nextId = ((s.step event).run events).nextId := rfl
    refine ⟨?_, ?_⟩
    · rw [List.map_append, ids, moreIds, List.length_append, before, ← List.range'_append_1]
      rfl
    · rw [after, lastId, before, List.length_append, Nat.add_assoc]

end Session

end PortfolioShell
