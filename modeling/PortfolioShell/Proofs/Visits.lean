import PortfolioShell.Proofs.Modes
import PortfolioShell.Proofs.Programs

/-!
# Visits of full-screen programs

The game, the viewer and the editor read lines of their own until one of them, or the end of the
input, makes them give way. Such a visit is a loop over the lines that are left. The program has no
such loop: it looks up the reader of every line, and keeps what is typed into an editor as a draft.
But reading line by line goes through the same visits, and a draft is forgotten with its editor.
-/
namespace PortfolioShell

/-- Who reads a line. -/
inductive Reader where
  | prompt
  | game
  | viewer
  | editor
deriving DecidableEq, Repr

/-- The reader of a full-screen program. -/
def Reader.ofProgram : Subprogram → Reader
  | .game => .game
  | .viewer _ _ => .viewer
  | .editor _ => .editor

/-- Who reads the next line. -/
def Reader.ofMode : Mode → Reader
  | .running program => ofProgram program
  | _ => .prompt

theorem Reader.ofMode_of_idle {mode : Mode} (idle : ∀ program, mode ≠ .running program) :
    ofMode mode = .prompt := by
  cases mode with
  | running program => exact absurd rfl (idle program)
  | _ => rfl

/-! ### Visits -/

/-- How a full-screen program is left. -/
inductive Parting where
  | leave
  | save (content : String)
  | cancel
deriving DecidableEq, Repr

/-- What comes of a full-screen program: what it prints behind its first screen, the lines that it
reads and those that it leaves, and how it is left. -/
structure Visit where
  printed : String
  taken : List String
  rest : List String
  parting : Parting
deriving DecidableEq, Repr

namespace Visit

/-- The same visit behind one more line. -/
def behind (visit : Visit) (printed line : String) : Visit :=
  { visit with printed := printed ++ visit.printed, taken := line :: visit.taken }

/-- A visit that ends at a line. -/
def endsAt (line : String) (rest : List String) (parting : Parting) : Visit :=
  ⟨"", [line], rest, parting⟩

/-- The game reads one line. -/
def game : List String → Visit
  | [] => ⟨"", [], [], .leave⟩
  | line :: rest => endsAt line rest .leave

/-- The viewer reads lines until one quits. -/
def viewer (palette : Palette) : List String → Visit
  | [] => ⟨"", [], [], .leave⟩
  | line :: rest =>
    let command := Programs.viewerCommand line
    if Programs.isQuit command then endsAt line rest .leave
    else (viewer palette rest).behind (Programs.viewerReply palette command) line

/-- The editor gathers lines until one saves or cancels. -/
def editor (buffer : List String) : List String → Visit
  | [] => ⟨"", [], [], .cancel⟩
  | line :: rest =>
    match Programs.EditorLine.ofLine line with
    | .save => endsAt line rest (.save (Text.join "\n" buffer))
    | .cancel => endsAt line rest .cancel
    | .content line' => (editor (buffer ++ [line']) rest).behind "" line

theorem parting_editor (buffer lines : List String) :
    (editor buffer lines).parting ≠ .leave := by
  induction lines generalizing buffer with
  | nil => exact nofun
  | cons line rest ih =>
    rw [editor]
    split
    · exact nofun
    · exact nofun
    · exact ih _

/-- Lines that are all content leave an editor open to their end, where it is cancelled. -/
theorem editor_of_contents (buffer : List String) {lines : List String}
    (typing : ∀ line ∈ lines, ∃ typed, Programs.EditorLine.ofLine line = .content typed) :
    (editor buffer lines).parting = .cancel ∧ (editor buffer lines).rest = [] := by
  induction lines generalizing buffer with
  | nil => exact ⟨rfl, rfl⟩
  | cons line rest ih =>
    obtain ⟨typed, content⟩ := typing line List.mem_cons_self
    simp only [editor, content]
    exact ih _ fun line mem => typing line (List.mem_cons_of_mem _ mem)

/-- The visit that a full-screen program gets from lines. -/
def of (palette : Palette) : Subprogram → List String → Visit
  | .game => game
  | .viewer _ _ => viewer palette
  | .editor _ => editor []

theorem lines_behind (visit : Visit) (printed line : String) :
    (visit.behind printed line).taken ++ (visit.behind printed line).rest =
      line :: (visit.taken ++ visit.rest) := rfl

theorem lines_viewer (palette : Palette) (lines : List String) :
    (viewer palette lines).taken ++ (viewer palette lines).rest = lines := by
  induction lines with
  | nil => rfl
  | cons line rest ih =>
    simp only [viewer]
    split
    · rfl
    · rw [lines_behind, ih]

theorem lines_editor (buffer lines : List String) :
    (editor buffer lines).taken ++ (editor buffer lines).rest = lines := by
  induction lines generalizing buffer with
  | nil => rfl
  | cons line rest ih =>
    rw [editor]
    split
    · rfl
    · rfl
    · rw [lines_behind, ih]

/-- Every line is taken or left, in order. -/
theorem lines_of (palette : Palette) (program : Subprogram) (lines : List String) :
    (of palette program lines).taken ++ (of palette program lines).rest = lines := by
  cases program with
  | game => cases lines <;> rfl
  | viewer filename content => exact lines_viewer palette lines
  | editor post => exact lines_editor [] lines

/-- Where there are lines, one is taken. -/
theorem length_rest_of (palette : Palette) (program : Subprogram) (line : String)
    (rest : List String) : (of palette program (line :: rest)).rest.length ≤ rest.length := by
  have lines := congrArg List.length (lines_of palette program (line :: rest))
  have some : (of palette program (line :: rest)).taken ≠ [] := by
    cases program with
    | game => exact List.cons_ne_nil line []
    | viewer filename content =>
      simp only [of, viewer]
      split <;> exact List.cons_ne_nil line _
    | editor post =>
      simp only [of, editor]
      split <;> exact List.cons_ne_nil line _
  have taken := List.length_pos_iff.mpr some
  simp only [List.length_append, List.length_cons] at lines
  omega

end Visit

/-- A session that leaves its full-screen program. -/
def Session.part {σ : Type} [Backend σ] (s : Session σ) : Parting → Session σ
  | .leave => s.exitProgram
  | .save content => s.saveEdit content
  | .cancel => s.cancelEdit

namespace Program

variable {φ : Type}

/-- What a full-screen program shows first, if one runs. -/
def opening (p : Program φ) : String :=
  match p.session.mode with
  | .running program => Programs.openingScreen p.session.theme.palette program
  | _ => ""

theorem opening_of_running {p : Program φ} {program : Subprogram}
    (running : p.session.mode = .running program) :
    p.opening = Programs.openingScreen p.session.theme.palette program := by
  simp only [opening, running]

theorem opening_of_idle {p : Program φ} (idle : ∀ program, p.session.mode ≠ .running program) :
    p.opening = "" := by
  rw [opening]
  split
  · rename_i running
    exact absurd running (idle _)
  · rfl

theorem renderAll_fresh {p : Program φ} (fresh : p.draft = []) :
    p.renderAll = (p.render.1 ++ p.opening, p.render.2) := by
  obtain ⟨session, screen, draft, disk⟩ := p
  obtain rfl : draft = [] := fresh
  simp only [renderAll, render, opening]
  cases mode : session.mode <;> simp only [String.append_empty]

/-! ### A draft counts only in the editor -/

/-- A program without the lines that have been typed into an editor. -/
def settled (p : Program φ) : Program φ := { p with draft := [] }

/-- The program with another draft. -/
def withDraft (p : Program φ) (draft : List String) : Program φ := { p with draft }

/-- The same program, perhaps with another draft where there is no editor to read it. -/
structure Like (p q : Program φ) : Prop where
  draft : ∃ draft, q = p.withDraft draft
  editing : ∀ post, p.session.mode = .running (.editor post) → q = p

theorem Like.refl (p : Program φ) : Like p p := ⟨⟨p.draft, rfl⟩, fun _ _ => rfl⟩

theorem like_renderAll (p : Program φ) (draft : List String) :
    (p.withDraft draft).renderAll.1 = p.renderAll.1 ∧
      Like p.renderAll.2 (p.withDraft draft).renderAll.2 := by
  simp only [renderAll, render, withDraft]
  split
  · exact ⟨rfl, .refl _⟩
  · rename_i idle
    exact ⟨rfl, ⟨draft, rfl⟩, fun post editing => absurd editing (idle _)⟩

theorem Like.finish {p q : Program φ} (like : Like p q) :
    q.finish.1 = p.finish.1 ∧ q.finish.2.settled = p.finish.2.settled := by
  obtain ⟨draft, rfl⟩ := like.draft
  have settled : ∀ {p q : Program φ}, Like p q → q.settled = p.settled := by
    rintro p q ⟨⟨draft, rfl⟩, _⟩
    rfl
  have left := like_renderAll { p with session := p.session.exitProgram } draft
  have cancelled := like_renderAll { p with session := p.session.cancelEdit } draft
  have mode : (p.withDraft draft).session.mode = p.session.mode := rfl
  rw [Program.finish, Program.finish, mode]
  split
  · exact ⟨cancelled.1, settled cancelled.2⟩
  · exact ⟨left.1, settled left.2⟩
  · exact ⟨rfl, rfl⟩

variable [Storage φ]

/-! ### Reading without a draft -/

/-- What comes of reading lines to their end: what is printed, who has read which line, and the
program at the end, of which it does not count what was typed into an editor. -/
structure Reading (φ : Type) where
  printed : String
  readers : List (Reader × String)
  program : Program φ

/-- Reading behind what has been printed and read. -/
def Reading.behind (reading : Reading φ) (printed : String) (readers : List (Reader × String)) :
    Reading φ :=
  { reading with printed := printed ++ reading.printed, readers := readers ++ reading.readers }

/-- Reads lines to their end. -/
def reading (p : Program φ) : List String → Reading φ
  | [] => ⟨p.finish.1, [], p.finish.2.settled⟩
  | line :: rest =>
    ((p.read line).2.reading rest).behind (p.read line).1
      [(Reader.ofMode p.session.mode, line)]

theorem reading_eq (p : Program φ) (lines : List String) :
    (p.reading lines).printed = (p.readAll ⟨lines, .complete⟩).1 ∧
      (p.reading lines).program = (p.readAll ⟨lines, .complete⟩).2.settled := by
  induction lines generalizing p with
  | nil => exact ⟨String.empty_append.symm, rfl⟩
  | cons line rest ih =>
    obtain ⟨printed, program⟩ := ih (p.read line).2
    simp only [readAll] at printed program ⊢
    rw [readLines_cons]
    refine ⟨?_, program⟩
    rw [reading, Reading.behind]
    simp only [printed, String.append_assoc]

theorem readers_reading (p : Program φ) (lines : List String) :
    (p.reading lines).readers.map (·.2) = lines := by
  induction lines generalizing p with
  | nil => rfl
  | cons line rest ih =>
    rw [reading, Reading.behind, List.map_append, ih]
    rfl

theorem reading_of_idle {p : Program φ} (idle : ∀ program, p.session.mode ≠ .running program) :
    p.reading [] = ⟨"", [], p.settled⟩ := by
  have finish : p.finish = ("", p) := by
    rw [finish]
    split
    · rename_i running
      exact absurd running (idle _)
    · rename_i running
      exact absurd running (idle _)
    · rfl
  rw [reading, finish]

theorem Like.read {p q : Program φ} (like : Like p q) (line : String) :
    (q.read line).1 = (p.read line).1 ∧ Like (p.read line).2 (q.read line).2 := by
  obtain ⟨draft, rfl⟩ := like.draft
  have left := like_renderAll { p with session := p.session.exitProgram } draft
  cases mode : p.session.mode with
  | running program =>
    have mode' : (p.withDraft draft).session.mode = .running program := mode
    cases program with
    | game =>
      simp only [Program.read, mode, mode']
      exact left
    | viewer filename content =>
      simp only [Program.read, mode, mode', readViewer]
      split
      · exact left
      · exact ⟨rfl, like⟩
    | editor post =>
      rw [like.editing post mode]
      exact ⟨rfl, .refl _⟩
  | _ =>
    have idle : ∀ program, p.session.mode ≠ .running program := by simp [mode]
    rw [read_of_not_running idle, read_of_not_running (p := p.withDraft draft) idle]
    let session := (p.session.setInput line).submit
    exact like_renderAll { p with session, disk :=
      if session.theme = p.session.theme then p.disk
      else (Storage.saveTheme session.theme p.disk).2 } draft

theorem Like.reading {p q : Program φ} (like : Like p q) (lines : List String) :
    q.reading lines = p.reading lines := by
  induction lines generalizing p q with
  | nil => rw [Program.reading, Program.reading, like.finish.1, like.finish.2]
  | cons line rest ih =>
    have session : q.session = p.session := by
      obtain ⟨draft, rfl⟩ := like.draft
      rfl
    rw [Program.reading, Program.reading, (like.read line).1, ih (like.read line).2, session]

/-! ### One visit -/

/-- A program that has left its full-screen program. -/
def parted (p : Program φ) (parting : Parting) : String × Program φ :=
  renderAll { p with session := p.session.part parting }

/-- What comes of reading after a visit. -/
def after (p : Program φ) (reader : Reader) (visit : Visit) : Reading φ :=
  ((p.parted visit.parting).2.reading visit.rest).behind
    (visit.printed ++ (p.parted visit.parting).1) (visit.taken.map (reader, ·))

theorem after_behind (p : Program φ) (reader : Reader) (visit : Visit) (printed line : String) :
    p.after reader (visit.behind printed line) =
      (p.after reader visit).behind printed [(reader, line)] := by
  simp only [after, Visit.behind, Reading.behind, String.append_assoc, List.map_cons,
    List.cons_append, List.nil_append]

theorem after_endsAt (p : Program φ) (reader : Reader) (line : String) (rest : List String)
    (parting : Parting) : p.after reader (.endsAt line rest parting) =
      ((p.parted parting).2.reading rest).behind (p.parted parting).1 [(reader, line)] := by
  simp only [after, Visit.endsAt, String.empty_append, List.map_cons, List.map_nil]

/-- A visit may end because there are no more lines. -/
theorem after_end {p : Program φ} {parting : Parting}
    (idle : ∀ program, (p.session.part parting).mode ≠ .running program) (reader : Reader) :
    p.after reader ⟨"", [], [], parting⟩ =
      ⟨(p.parted parting).1, [], (p.parted parting).2.settled⟩ := by
  have session : (p.parted parting).2.session = p.session.part parting := session_renderAll _
  simp only [after, String.empty_append, List.map_nil]
  rw [reading_of_idle (session ▸ idle)]
  simp only [Reading.behind, String.append_empty, List.nil_append]

/-- The draft is gone when an editor is left. -/
theorem after_withDraft (p : Program φ) (draft : List String) (reader : Reader) (visit : Visit) :
    (p.withDraft draft).after reader visit = p.after reader visit := by
  have parted := like_renderAll { p with session := p.session.part visit.parting } draft
  have printed : ((p.withDraft draft).parted visit.parting).1 = (p.parted visit.parting).1 :=
    parted.1
  have reads : ((p.withDraft draft).parted visit.parting).2.reading visit.rest =
      (p.parted visit.parting).2.reading visit.rest := parted.2.reading visit.rest
  rw [after, printed, reads, after]

theorem reading_game {p : Program φ} (playing : p.session.mode = .running .game)
    (lines : List String) : p.reading lines = p.after .game (Visit.game lines) := by
  cases lines with
  | nil =>
    have idle : ∀ program, (p.session.part .leave).mode ≠ .running program := by
      simp [Session.part, Session.mode_exitProgram playing]
    have finish : p.finish = p.parted .leave := by
      simp only [Program.finish, playing]
      rfl
    rw [Visit.game, after_end idle, reading, finish]
  | cons line rest =>
    have read : p.read line = p.parted .leave := by
      simp only [Program.read, playing]
      rfl
    rw [Visit.game, after_endsAt, reading, read, playing]
    rfl

theorem read_viewer {p : Program φ} {filename content : String}
    (viewing : p.session.mode = .running (.viewer filename content)) (line : String) :
    p.read line = if Programs.isQuit (Programs.viewerCommand line) then p.parted .leave
      else (Programs.viewerReply p.session.theme.palette (Programs.viewerCommand line), p) := by
  simp only [Program.read, viewing]
  rfl

theorem reading_viewer {p : Program φ} {filename content : String}
    (viewing : p.session.mode = .running (.viewer filename content)) (lines : List String) :
    p.reading lines = p.after .viewer (Visit.viewer p.session.theme.palette lines) := by
  have reader : Reader.ofMode p.session.mode = .viewer := by rw [viewing]; rfl
  induction lines with
  | nil =>
    have idle : ∀ program, (p.session.part .leave).mode ≠ .running program := by
      simp [Session.part, Session.mode_exitProgram viewing]
    have finish : p.finish = p.parted .leave := by
      simp only [Program.finish, viewing]
      rfl
    rw [Visit.viewer, after_end idle, reading, finish]
  | cons line rest ih =>
    rw [reading, read_viewer viewing, reader]
    simp only [Visit.viewer]
    cases Programs.isQuit (Programs.viewerCommand line) with
    | true => simp only [if_true, after_endsAt]
    | false => simp only [Bool.false_eq_true, if_false, after_behind, ih]

theorem read_editor {p : Program φ} {post : Post}
    (editing : p.session.mode = .running (.editor post)) (line : String) :
    p.read line = match Programs.EditorLine.ofLine line with
      | .save => p.parted (.save (Text.join "\n" p.draft.reverse))
      | .cancel => p.parted .cancel
      | .content typed => ("", p.withDraft (typed :: p.draft)) := by
  simp only [Program.read, editing]
  rfl

/-- The buffer of the loop is the draft, first line first. -/
theorem reading_editor {p : Program φ} {post : Post}
    (editing : p.session.mode = .running (.editor post)) (lines : List String) :
    p.reading lines = p.after .editor (Visit.editor p.draft.reverse lines) := by
  have reader : Reader.ofMode p.session.mode = .editor := by rw [editing]; rfl
  induction lines generalizing p with
  | nil =>
    have idle : ∀ program, (p.session.part .cancel).mode ≠ .running program := by
      simp [Session.part, Session.cancelEdit, editing, Session.mode_exitProgram editing]
    have finish : p.finish = p.parted .cancel := by
      simp only [Program.finish, editing]
      rfl
    rw [Visit.editor, after_end idle, reading, finish]
  | cons line rest ih =>
    rw [reading, read_editor editing, reader, Visit.editor]
    cases Programs.EditorLine.ofLine line with
    | save => simp only [after_endsAt]
    | cancel => simp only [after_endsAt]
    | content typed =>
      have more := ih (p := p.withDraft (typed :: p.draft)) editing reader
      have buffer : (p.withDraft (typed :: p.draft)).draft.reverse = p.draft.reverse ++ [typed] :=
        List.reverse_cons
      rw [after_withDraft, buffer] at more
      simp only [after_behind, more]

/-- Without a draft, reading goes on after the visit of the program that runs. -/
theorem reading_running {p : Program φ} {program : Subprogram}
    (running : p.session.mode = .running program) (fresh : p.draft = []) (lines : List String) :
    p.reading lines =
      p.after (.ofProgram program) (.of p.session.theme.palette program lines) := by
  cases program with
  | game => exact reading_game running lines
  | viewer filename content => exact reading_viewer running lines
  | editor post =>
    rw [reading_editor running, fresh]
    rfl

end Program

end PortfolioShell
