import PortfolioShell.Program.Basic
import PortfolioShell.Proofs.Surfaces

/-!
# Runs of the program

Arguments make the program read its input, or it prints a text, or it refuses them. If it reads,
its session is a new one with the commands that come with the terminal, and it keeps them. Only a
line at the prompt can change the theme and what is stored of it.
-/
namespace PortfolioShell.Program

section
variable {φ : Type} [Storage φ] {launch : Launch} {disk : φ} {p : Program φ} {first : String}

/-- What is printed first and the program that then reads an input, if the arguments make it read
one. -/
def begun? (launch : Launch) (disk : φ) : Option (String × Program φ) :=
  match launch.request with
  | some (.run options) =>
    match siteOf options launch.file? with
    | .ok site => some (start options site launch.host launch.clock disk)
    | .error _ => none
  | _ => none

theorem exists_start (begun : begun? launch disk = some (first, p)) :
    ∃ options site, launch.request = some (.run options) ∧
      siteOf options launch.file? = .ok site ∧
        start options site launch.host launch.clock disk = (first, p) := by
  rw [begun?] at begun
  split at begun
  · rename_i options asked
    split at begun
    · rename_i site serves
      exact ⟨options, site, asked, serves, Option.some.inj begun⟩
    · cases begun
  · cases begun

/-- A program that has begun reads its whole input. -/
theorem serve_of_begun (begun : begun? launch disk = some (first, p)) (input : Input) :
    serve launch input disk =
      ⟨input.ending.exitCode, first ++ (p.readAll input).1, (p.readAll input).2.disk⟩ := by
  obtain ⟨options, site, asked, serves, started⟩ := exists_start begun
  simp only [serve, asked, serves, started]

/-- Whatever else it does leaves the storage alone. -/
theorem stored_of_not_begun (idle : begun? launch disk = none) (input : Input) :
    (serve launch input disk).stored = disk := by
  rw [serve]
  split
  · rfl
  · rfl
  · rfl
  · rename_i options asked
    split
    · rfl
    · rename_i site serves
      simp [begun?, asked, serves] at idle

/-- A program that has just begun. -/
structure Fresh (p : Program φ) (disk : φ) : Prop where
  normal : p.session.mode = .normal
  builtin : p.session.setting.registry = .builtin
  draft : p.draft = []
  disk : p.disk = disk

theorem fresh_of_begun (begun : begun? launch disk = some (first, p)) : p.Fresh disk := by
  obtain ⟨options, site, _, _, started⟩ := exists_start begun
  obtain rfl : (start options site launch.host launch.clock disk).2 = p :=
    congrArg Prod.snd started
  exact ⟨rfl, rfl, rfl, rfl⟩

end

/-! ### What a line changes -/

section
variable {φ : Type} {p : Program φ}

theorem session_renderAll (p : Program φ) : p.renderAll.2.session = p.session := by
  simp only [renderAll]
  split <;> rfl

theorem disk_renderAll (p : Program φ) : p.renderAll.2.disk = p.disk := by
  simp only [renderAll]
  split <;> rfl

/-- What stays as it is while a full-screen program runs. -/
def Keeps (p q : Program φ) : Prop :=
  q.session.surface = p.session.surface ∧ q.disk = p.disk

theorem keeps_leave (p : Program φ) : p.Keeps p.leave.2 := by
  rw [Keeps, leave, session_renderAll, disk_renderAll]
  exact ⟨p.session.surface_exitProgram, rfl⟩

theorem keeps_cancel (p : Program φ) : p.Keeps p.cancel.2 := by
  rw [Keeps, cancel, session_renderAll, disk_renderAll]
  exact ⟨p.session.surface_cancelEdit, rfl⟩

theorem keeps_readViewer (p : Program φ) (line : String) : p.Keeps (p.readViewer line).2 := by
  simp only [readViewer]
  split
  · exact p.keeps_leave
  · exact ⟨rfl, rfl⟩

theorem keeps_readEditor (p : Program φ) (line : String) : p.Keeps (p.readEditor line).2 := by
  rw [readEditor]
  split
  · rw [Keeps, session_renderAll, disk_renderAll]
    exact ⟨p.session.surface_saveEdit _, rfl⟩
  · exact p.keeps_cancel
  · exact ⟨rfl, rfl⟩

theorem keeps_finish (p : Program φ) : p.Keeps p.finish.2 := by
  rw [finish]
  split
  · exact p.keeps_cancel
  · exact p.keeps_leave
  · exact ⟨rfl, rfl⟩

theorem keeps_close (p : Program φ) (ending : Ending) : p.Keeps (p.close ending).2 := by
  cases ending with
  | complete => exact p.keeps_finish
  | broken => exact ⟨rfl, rfl⟩

variable [Storage φ]

theorem keeps_read {program : Subprogram} (running : p.session.mode = .running program)
    (line : String) : p.Keeps (p.read line).2 := by
  rw [read, running]
  cases program with
  | game => exact p.keeps_leave
  | viewer filename content => exact p.keeps_readViewer line
  | editor post => exact p.keeps_readEditor line

/-- While no full-screen program runs, a line is for the prompt. -/
theorem read_of_not_running (idle : ∀ program, p.session.mode ≠ .running program)
    (line : String) : p.read line = p.readPrompt line := by
  rw [read]
  split
  · rename_i running
    exact absurd running (idle _)
  · rename_i running
    exact absurd running (idle _)
  · rename_i running
    exact absurd running (idle _)
  · rfl

theorem session_readPrompt (p : Program φ) (line : String) :
    (p.readPrompt line).2.session = (p.session.setInput line).submitLine line := by
  rw [readPrompt]
  exact session_renderAll _

/-- A theme is stored when a line has changed it. -/
theorem disk_readPrompt (p : Program φ) (line : String) :
    (p.readPrompt line).2.disk =
      if (p.readPrompt line).2.session.theme = p.session.theme then p.disk
      else (Storage.saveTheme (p.readPrompt line).2.session.theme p.disk).2 := by
  rw [session_readPrompt, readPrompt, disk_renderAll]
  rfl

end

end PortfolioShell.Program
