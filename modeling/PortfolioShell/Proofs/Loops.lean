import PortfolioShell.Proofs.Recording
import PortfolioShell.Proofs.Visits

/-!
# The loops of the program

The program can be run as three loops. The outer one asks for a line at the prompt until the input
ends. After each line the middle one starts full-screen programs until none is running, and inside
of it each of these has a loop of its own. The outer loops are written down as relations, which do
not say that they end. They do, with one result: every round of the middle loop takes a line or
meets the end of the input, where every full-screen program gives way to the prompt. What is printed
and stored then, and who has read which line, is the same as where the reader of every line is
looked up.
-/
namespace PortfolioShell

/-- The state of the loops: the session, its screen and the storage, what has been printed, which
lines have been taken, and by whom, and those that are left. -/
structure Console (φ : Type) where
  session : Session Store
  screen : Screen
  disk : φ
  printed : String
  taken : List (Reader × String)
  rest : List String

namespace Console

variable {φ : Type}

/-- Prints what the session has added. -/
def render (c : Console φ) : Console φ :=
  let (printed, screen) := c.screen.render c.session
  { c with screen, printed := c.printed ++ printed }

/-- Starts a full-screen program and leaves it as it says. -/
def visit (c : Console φ) (program : Subprogram) : Console φ :=
  let palette := c.session.theme.palette
  let visit := Visit.of palette program c.rest
  { c with
    session := c.session.part visit.parting
    printed := c.printed ++ Programs.openingScreen palette program ++ visit.printed
    taken := c.taken ++ visit.taken.map (.ofProgram program, ·)
    rest := visit.rest }

/-- No full-screen program runs. -/
def Idle (c : Console φ) : Prop := ∀ program, c.session.mode ≠ .running program

/-- The middle loop: full-screen programs are started until none runs. -/
inductive Drives : Console φ → Console φ → Prop
  | back {c : Console φ} (idle : c.Idle) : Drives c c
  | again {c after : Console φ} {program : Subprogram} (running : c.session.mode = .running program)
      (more : Drives (c.visit program).render after) : Drives c after

theorem Drives.idle {c back : Console φ} (drives : Drives c back) : back.Idle := by
  induction drives with
  | back idle => exact idle
  | again _ _ ih => exact ih

/-- At the end of the input every full-screen program gives way to the prompt. -/
theorem idle_visit {c : Console φ} {program : Subprogram}
    (running : c.session.mode = .running program) (empty : c.rest = []) :
    (c.visit program).render.Idle ∧ (c.visit program).render.rest = [] := by
  have left := Session.mode_exitProgram running
  cases program with
  | game => simp [Idle, render, visit, Visit.of, Visit.game, empty, Session.part, left]
  | viewer filename content =>
    simp [Idle, render, visit, Visit.of, Visit.viewer, empty, Session.part, left]
  | editor post =>
    simp [Idle, render, visit, Visit.of, Visit.editor, empty, Session.part, Session.cancelEdit,
      running, left]

/-- The middle loop ends: its rounds take lines, and after the last line there is at most one. -/
theorem exists_drives (c : Console φ) :
    ∃ back, Drives c back ∧ back.rest.length ≤ c.rest.length := by
  generalize size : c.rest.length = n
  induction n using Nat.strongRecOn generalizing c with
  | ind n ih =>
    by_cases running : ∃ program, c.session.mode = .running program
    · obtain ⟨program, running⟩ := running
      cases next : c.rest with
      | nil =>
        obtain ⟨idle, empty⟩ := idle_visit running next
        exact ⟨_, .again running (.back idle), by simp [empty]⟩
      | cons line rest =>
        have shorter : (c.visit program).render.rest.length ≤ rest.length := by
          have taken := Visit.length_rest_of c.session.theme.palette program line rest
          rw [← next] at taken
          exact taken
        have fewer : (c.visit program).render.rest.length < n := by
          rw [← size, next]
          exact Nat.lt_succ_of_le shorter
        obtain ⟨back, drives, le⟩ := ih _ fewer (c.visit program).render rfl
        exact ⟨back, .again running drives, Nat.le_trans le (Nat.le_of_lt fewer)⟩
    · exact ⟨c, .back (not_exists.mp running), Nat.le_of_eq size⟩

/-! ### The editor at the end of the input -/

theorem Drives.eq_of_idle {c back : Console φ} (drives : Drives c back) (idle : c.Idle) :
    back = c := by
  cases drives with
  | back _ => rfl
  | again running _ => exact absurd running (idle _)

theorem cancel_editing {c : Console φ} {post : Post}
    (editing : c.session.mode = .running (.editor post))
    (cancels : (Visit.editor [] c.rest).parting = .cancel) :
    (c.visit (.editor post)).render.session.mode = .normal ∧
      (c.visit (.editor post)).render.session.backend = c.session.backend := by
  have session : (c.visit (.editor post)).render.session = c.session.cancelEdit := by
    simp only [render, visit, Visit.of, cancels, Session.part]
  rw [session]
  simp only [Session.cancelEdit, Session.exitProgram, editing]
  exact ⟨rfl, rfl⟩

/-- An editor that meets the end of the input is cancelled, and nothing is saved. -/
theorem Drives.cancels {c back : Console φ} (drives : Drives c back) {post : Post}
    (editing : c.session.mode = .running (.editor post))
    (typing : ∀ line ∈ c.rest, ∃ typed, Programs.EditorLine.ofLine line = .content typed) :
    back.session.mode = .normal ∧ back.session.backend = c.session.backend ∧ back.rest = [] := by
  cases drives with
  | back idle => exact absurd editing (idle _)
  | @again _ _ program running more =>
    obtain rfl : program = .editor post := Mode.running.inj (running.symm.trans editing)
    obtain ⟨parting, rest⟩ := Visit.editor_of_contents [] typing
    obtain ⟨normal, same⟩ := cancel_editing editing parting
    obtain rfl := more.eq_of_idle (by simp [Idle, normal])
    exact ⟨normal, same, rest⟩

theorem backend_saveEdit_failing {s : Session Store} {post : Post}
    (editing : s.mode = .running (.editor post)) {content : String}
    (fails : (Backend.updateContent post.id content s.backend).1 ≠ .ok ()) :
    (s.saveEdit content).backend = s.backend := by
  rw [Session.saveEdit_editing editing]
  cases answer : (Backend.updateContent post.id content s.backend).1 with
  | ok done => exact absurd answer fails
  | error e => exact Store.failsClean.updateContent post.id content s.backend e answer

/-- While saving fails the editor is opened again, until it is cancelled, and nothing is saved. -/
theorem Drives.refused {c back : Console φ} (drives : Drives c back) {post : Post}
    (editing : c.session.mode = .running (.editor post))
    (fails : ∀ content, (Backend.updateContent post.id content c.session.backend).1 ≠ .ok ()) :
    back.session.mode = .normal ∧ back.session.backend = c.session.backend := by
  induction drives with
  | back idle => exact absurd editing (idle _)
  | @again c back program running more ih =>
    obtain rfl : program = .editor post := Mode.running.inj (running.symm.trans editing)
    cases parting : (Visit.editor [] c.rest).parting with
    | leave => exact absurd parting (Visit.parting_editor [] c.rest)
    | cancel =>
      obtain ⟨normal, same⟩ := cancel_editing editing parting
      obtain rfl := more.eq_of_idle (by simp [Idle, normal])
      exact ⟨normal, same⟩
    | save content =>
      have session : (c.visit (.editor post)).render.session = c.session.saveEdit content := by
        simp only [render, visit, Visit.of, parting, Session.part]
      have mode := (Session.mode_saveEdit editing content).resolve_left fun saved =>
        fails content saved.1
      have same := backend_saveEdit_failing editing (fails content)
      rw [session, same] at ih
      exact ih mode.2 fails

/-! ### All lines -/

variable [Storage φ]

/-- Submits the next line at the prompt, and stores the theme if the line has changed it. -/
def submit (c : Console φ) (line : String) (rest : List String) : Console φ :=
  let session := (c.session.setInput line).submit
  { c with
    session
    disk :=
      if session.theme = c.session.theme then c.disk
      else (Storage.saveTheme session.theme c.disk).2
    taken := c.taken ++ [(.prompt, line)]
    rest }

/-- The outer loop: lines are submitted until there are no more. -/
inductive Loops : Console φ → Console φ → Prop
  | finish {c : Console φ} (empty : c.rest = []) : Loops c c
  | line {c back after : Console φ} {line : String} {rest : List String}
      (next : c.rest = line :: rest)
      (drives : Drives (c.submit line rest).render back) (more : Loops back after) : Loops c after

/-- The program that looks up the reader of every line. -/
def program (c : Console φ) : Program φ := ⟨c.session, c.screen, [], c.disk⟩

/-- What comes of it if the lines that are left are read one by one. -/
def reading (c : Console φ) : Program.Reading φ :=
  (c.program.reading c.rest).behind (c.printed ++ c.program.opening) c.taken

/-- A visit takes nothing away from what comes of reading. -/
theorem reading_visit {c : Console φ} {program : Subprogram}
    (running : c.session.mode = .running program) :
    (c.visit program).render.reading = c.reading := by
  let visit := Visit.of c.session.theme.palette program c.rest
  let after := (c.visit program).render
  have goes : c.program.reading c.rest = c.program.after (.ofProgram program) visit :=
    Program.reading_running running rfl c.rest
  have parted : c.program.parted visit.parting =
      ((c.screen.render (c.session.part visit.parting)).1 ++ after.program.opening,
        after.program) := Program.renderAll_fresh rfl
  have first : c.program.opening = Programs.openingScreen c.session.theme.palette program :=
    Program.opening_of_running running
  rw [reading, reading, goes, Program.after, parted, first]
  simp only [Program.Reading.behind, render, Console.visit, after, visit,
    String.append_assoc, List.append_assoc]

theorem reading_submit {c : Console φ} (idle : c.Idle) {line : String} {rest : List String}
    (next : c.rest = line :: rest) : (c.submit line rest).render.reading = c.reading := by
  let session := (c.session.setInput line).submit
  let after := (c.submit line rest).render
  have read : c.program.read line =
      ((c.screen.render session).1 ++ after.program.opening, after.program) :=
    (Program.read_of_not_running (p := c.program) idle line).trans (Program.renderAll_fresh rfl)
  have reader : Reader.ofMode c.program.session.mode = .prompt := Reader.ofMode_of_idle idle
  have first : c.program.opening = "" := Program.opening_of_idle idle
  rw [reading, reading, next, Program.reading, read, reader, first]
  simp only [Program.Reading.behind, render, Console.submit, after, session,
    String.append_assoc, List.append_assoc, String.append_empty]

theorem Drives.reading {c back : Console φ} (drives : Drives c back) :
    back.reading = c.reading := by
  induction drives with
  | back idle => rfl
  | again running _ ih => exact ih.trans (reading_visit running)

/-- The console when a reading is over. -/
def ended (reading : Program.Reading φ) : Console φ :=
  ⟨reading.program.session, reading.program.screen, reading.program.disk, reading.printed,
    reading.readers, []⟩

theorem reading_over {c : Console φ} (idle : c.Idle) (empty : c.rest = []) :
    c.reading = ⟨c.printed, c.taken, c.program⟩ := by
  have first : c.program.opening = "" := Program.opening_of_idle idle
  rw [reading, empty, Program.reading_of_idle (p := c.program) idle, first]
  simp only [Program.Reading.behind, String.append_empty, List.append_nil]
  rfl

theorem Loops.eq_ended {c after : Console φ} (loops : Loops c after) (idle : c.Idle) :
    after = ended c.reading ∧ after.Idle := by
  induction loops with
  | @finish c empty =>
    rw [reading_over idle empty]
    obtain ⟨session, screen, disk, printed, taken, rest⟩ := c
    obtain rfl : rest = [] := empty
    exact ⟨rfl, idle⟩
  | line next drives _ ih =>
    obtain ⟨same, idle'⟩ := ih drives.idle
    rw [drives.reading, reading_submit idle next] at same
    exact ⟨same, idle'⟩

theorem exists_loops {c : Console φ} (idle : c.Idle) : ∃ after, Loops c after := by
  generalize size : c.rest.length = n
  induction n using Nat.strongRecOn generalizing c with
  | ind n ih =>
    cases next : c.rest with
    | nil => exact ⟨c, .finish next⟩
    | cons line rest =>
      obtain ⟨back, drives, shorter⟩ := exists_drives (c.submit line rest).render
      have fewer : back.rest.length < n := by
        rw [← size, next]
        exact Nat.lt_succ_of_le shorter
      obtain ⟨after, loops⟩ := ih _ fewer drives.idle rfl
      exact ⟨after, .line next drives loops⟩

/-! ### Runs -/

/-- The loops as they begin, with a program that has printed its first screen. -/
def opened (printed : String) (p : Program φ) (lines : List String) : Console φ :=
  ⟨p.session, p.screen, p.disk, printed, [], lines⟩

/-- What the loops come to with the lines of an input. -/
structure Finishes (printed : String) (p : Program φ) (lines : List String) (after : Console φ) :
    Prop where
  ends : Loops (opened printed p lines) after
  only : ∀ other, Loops (opened printed p lines) other → other = after
  idle : after.Idle
  rest : after.rest = []
  /-- Every line is taken once, in order, -/
  consumed : after.taken.map (·.2) = lines
  /-- and by the reader that it is for. -/
  taken : after.taken = (p.reading lines).readers

theorem reading_opened {p : Program φ} {disk : φ} (fresh : p.Fresh disk) (printed : String)
    (lines : List String) :
    (opened printed p lines).reading = (p.reading lines).behind printed [] := by
  have same : (opened printed p lines).program = p := by
    obtain ⟨session, screen, draft, disk⟩ := p
    obtain rfl : draft = [] := fresh.draft
    rfl
  have first : p.opening = "" := Program.opening_of_idle (by simp [fresh.normal])
  rw [reading, same, first, String.append_empty]
  rfl

theorem exists_finishes {p : Program φ} {disk : φ} (fresh : p.Fresh disk) (printed : String)
    (lines : List String) :
    ∃ after, Finishes printed p lines after ∧
      after.printed = printed ++ (p.readAll ⟨lines, .complete⟩).1 ∧
        after.disk = (p.readAll ⟨lines, .complete⟩).2.disk := by
  have idle : (opened printed p lines).Idle := by simp [Idle, opened, fresh.normal]
  have reading := reading_opened fresh printed lines
  obtain ⟨printedLater, program⟩ := p.reading_eq lines
  have diskLater : (p.reading lines).program.disk =
      (p.readAll ⟨lines, .complete⟩).2.disk := by
    rw [program]
    rfl
  obtain ⟨after, ends⟩ := exists_loops idle
  obtain ⟨rfl, idleAfter⟩ := ends.eq_ended idle
  rw [reading] at ends idleAfter
  refine ⟨ended _, ⟨ends, fun other also => ?_, idleAfter, rfl, ?_, ?_⟩, ?_, ?_⟩
  · rw [(also.eq_ended idle).1, reading]
  · exact p.readers_reading lines
  · rfl
  · exact congrArg (printed ++ ·) printedLater
  · exact diskLater

/-- A program that the arguments make read its input reads it by the loops, whatever its lines are,
and they end: without a full-screen program, with every line taken once, and with what the run
prints and leaves in the storage. An editor that meets the end of the input is cancelled, and one
whose saves fail is in the end, too. -/
theorem loops_of_run {launch : Program.Launch} {disk : φ} {printed : String} {p : Program φ}
    (begun : Program.begun? launch disk = some (printed, p)) (lines : List String) :
    (∃ after, Finishes printed p lines after ∧
      Program.serve launch ⟨lines, .complete⟩ disk = ⟨0, after.printed, after.disk⟩) ∧
    ∀ (c back : Console φ) post, Drives c back → c.session.mode = .running (.editor post) →
      ((∀ line ∈ c.rest, ∃ typed, Programs.EditorLine.ofLine line = .content typed) →
        back.session.mode = .normal ∧ back.session.backend = c.session.backend ∧
          back.rest = []) ∧
      ((∀ content, (Backend.updateContent post.id content c.session.backend).1 ≠ .ok ()) →
        back.session.mode = .normal ∧ back.session.backend = c.session.backend) := by
  refine ⟨?_, fun c back post drives editing => ⟨drives.cancels editing, drives.refused editing⟩⟩
  obtain ⟨after, finishes, printedLater, diskLater⟩ :=
    exists_finishes (Program.fresh_of_begun begun) printed lines
  refine ⟨after, finishes, ?_⟩
  rw [Program.serve_of_begun begun, printedLater, diskLater]
  rfl

/-- A reader whose edits are refused until the input ends. -/
theorem loops_of_refused_reader :
    let lines := ["login a@b.c", "secret", "post new Hi", "logout", "login r@b.c", "secret",
      "post edit hi", "Mine.", ".", ".", "Mine!"]
    let args := ["--admin", "a@b.c:secret", "--user", "r@b.c:secret"]
    let launch := Program.Launch.ofArguments args (fun _ => none) ⟨⟨0, 0⟩, 0⟩
    ∃ printed p after,
      Program.begun? launch (⟨none⟩ : ThemeFile) = some (printed, p) ∧
        Finishes printed p lines after ∧
          after.taken.map (·.1) = List.replicate 7 .prompt ++ List.replicate 4 .editor := by
  intro lines args launch
  let options : Options := { Options.empty with
    admins := [⟨"a@b.c", "secret"⟩], users := [⟨"r@b.c", "secret"⟩] }
  let started := Program.start options .builtin launch.host launch.clock (⟨none⟩ : ThemeFile)
  have asked : launch.request = some (.run options) := by decide +kernel
  have begun : Program.begun? launch (⟨none⟩ : ThemeFile) = some (started.1, started.2) := by
    rw [Program.begun?, asked]
    rfl
  obtain ⟨⟨after, finishes, _⟩, _⟩ := loops_of_run begun lines
  refine ⟨started.1, started.2, after, begun, finishes, ?_⟩
  rw [finishes.taken]
  decide +kernel

end Console

end PortfolioShell
