import PortfolioShell.Proofs.Demands
import PortfolioShell.Proofs.Screens
import PortfolioShell.Proofs.Surfaces

/-!
# The window of kept lines

Every line that is ever printed gets the next number. What a session keeps of them is a window that
ends at the newest one: an event appends its lines to the window, and the oldest give way when it is
full. Clearing empties the window, but the numbers go on, so no number is given out twice. The epoch
counts the clearings, and nothing else changes it.
-/
namespace PortfolioShell

namespace Scrollback

/-- The kept lines bear successive numbers up to the last one given out, and are no more than a
scrollback may hold. -/
structure IsWindow (b : Scrollback) (capacity : Nat) : Prop where
  successive : ∃ first, b.lines.items.map (·.id) = List.range' first b.lines.items.length ∧
    first + b.lines.items.length = b.nextId
  bounded : b.lines.items.length ≤ max capacity 1

variable {b c : Scrollback} {lines : List Line}

/-! ### What is kept of added lines -/

theorem Replies.capacity (replies : Replies b c lines) : c.lines.capacity = b.lines.capacity := by
  cases replies with
  | silent => rfl
  | answer data => exact b.lines.capacity_insert _
  | cleared => exact b.lines.capacity_clear

theorem Adds.capacity (adds : Adds b c lines) : c.lines.capacity = b.lines.capacity := by
  cases adds with
  | nothing => rfl
  | notice data => exact b.lines.capacity_insert _
  | typed data replies => exact replies.capacity.trans (b.lines.capacity_insert _)

/-- The same epoch goes on with the newest of the lines, or a new one begins without any. -/
def Keeps (b c : Scrollback) (lines : List Line) : Prop :=
  (c.epoch = b.epoch ∧
    c.lines.items = Ring.newest b.lines.capacity (b.lines.items ++ lines)) ∨
  (c.epoch = b.epoch + 1 ∧ c.lines.items = [])

theorem keeps_rest (b : Scrollback) : Keeps b b [] := by
  refine Or.inl ⟨rfl, ?_⟩
  have all : b.lines.items.length - b.lines.capacity = 0 :=
    Nat.sub_eq_zero_of_le b.lines.length_items_le
  rw [List.append_nil, Ring.newest, all, List.drop_zero]

theorem keeps_print (b : Scrollback) (role : LineRole) (data : LineData) :
    Keeps b (b.print role data) [b.next role data] :=
  Or.inl ⟨rfl, b.lines.items_insert_eq_newest _⟩

theorem Replies.keeps (replies : Replies b c lines) : Keeps b c lines := by
  cases replies with
  | silent => exact keeps_rest b
  | answer data => exact keeps_print b .output data
  | cleared => exact Or.inr ⟨rfl, rfl⟩

theorem Adds.keeps (adds : Adds b c lines) : Keeps b c lines := by
  cases adds with
  | nothing => exact keeps_rest b
  | notice data => exact keeps_print b .system data
  | @typed data _ answers replies =>
    rcases replies.keeps with ⟨epoch, items⟩ | cleared
    · refine Or.inl ⟨epoch, ?_⟩
      -- The echo may give way to its own answer, which `newest_append` allows for.
      have echoed : (b.print .input data).lines.items =
          Ring.newest b.lines.capacity (b.lines.items ++ [b.next .input data]) :=
        b.lines.items_insert_eq_newest _
      have capacity : (b.print .input data).lines.capacity = b.lines.capacity :=
        b.lines.capacity_insert _
      rw [items, capacity, echoed, Ring.newest_append, List.append_assoc, List.singleton_append]
    · exact Or.inr cleared

/-- If the lines so far end with what is kept, they still do with the new ones behind them. -/
theorem Keeps.suffix (keeps : Keeps b c lines) {log : List Line} (window : b.lines.items <:+ log) :
    c.lines.items <:+ log ++ lines := by
  rcases keeps with ⟨_, items⟩ | ⟨_, none⟩
  · obtain ⟨gone, rfl⟩ := window
    rw [items, List.append_assoc]
    exact (List.drop_suffix _ _).trans (List.suffix_append _ _)
  · rw [none]
    exact List.nil_suffix

/-- What is left of all lines at their end bears successive numbers. -/
theorem isWindow_of_suffix {log : List Line} (window : b.lines.items <:+ log)
    (ids : log.map (·.id) = List.range b.nextId) {capacity : Nat}
    (kept : b.lines.capacity = max capacity 1) : b.IsWindow capacity where
  successive := by
    obtain ⟨gone, rfl⟩ := window
    have count := congrArg List.length ids
    rw [List.length_map, List.length_append, List.length_range] at count
    refine ⟨gone.length, ?_, count⟩
    rw [List.map_append, List.range_eq_range', ← count, ← List.range'_append_1] at ids
    exact (List.append_inj ids (by simp)).2.trans (by simp)
  bounded := kept ▸ b.lines.length_items_le

end Scrollback

/-! ### Clearing the screen -/

section
variable {σ : Type} [Backend σ]

/-- The screen is cleared by the commands that are registered for it and by no others. -/
theorem dispatch_eq_clear_iff {line cwd : String} {setting : Setting} {b : σ} :
    (dispatch line setting cwd b).1.output = some .clear ↔
      ∃ inv, Invocation.ofLine? line = some inv ∧
        setting.registry.Runs inv.name (.plain .clear) := by
  constructor
  · intro clear
    obtain ⟨inv, handler, hinv, runs, asks⟩ := asks_of_dispatch clear (by rintro ⟨⟩)
    generalize args : inv.args = args at asks
    generalize (dispatch line setting cwd b).2 = after at asks
    cases asks with
    | clear args => exact ⟨inv, hinv, runs⟩
  · rintro ⟨inv, hinv, runs⟩
    rw [dispatch, hinv]
    simp only
    rw [Invocation.execute_of_runs runs]
    rfl

end

namespace Session

open Scrollback

variable {σ : Type}

/-- Whether an event clears the screen: in normal mode it submits a command that is registered to
do so. -/
def clears (s : Session σ) (event : Event) : Bool :=
  s.mode == .normal && ((s.submitted? event).bind Invocation.ofLine?).any fun inv =>
    s.setting.registry.Runs inv.name (.plain .clear)

theorem clears_of_not_submitted {s : Session σ} {event : Event}
    (quiet : s.submitted? event = none) : s.clears event = false := by
  simp [clears, quiet]

theorem clears_of_not_normal {s : Session σ} (busy : s.mode ≠ .normal) (event : Event) :
    s.clears event = false := by
  simp [clears, busy]

theorem clears_iff {s : Session σ} {event : Event} {line : String} (normal : s.mode = .normal)
    (submits : s.submitted? event = some line) :
    s.clears event = true ↔ ∃ inv, Invocation.ofLine? line = some inv ∧
      s.setting.registry.Runs inv.name (.plain .clear) := by
  simp [clears, normal, submits, Option.any_eq_true]

variable [Backend σ]

/-- A clearing begins a new epoch, and nothing else does. -/
theorem epoch_step (s : Session σ) (event : Event) :
    (s.step event).epoch = s.epoch + (s.clears event).toNat := by
  cases submits : s.submitted? event with
  | none =>
    obtain ⟨theme, surface⟩ := surface_step_of_not_submitted submits
    rw [clears_of_not_submitted submits]
    exact congrArg Surface.epoch surface
  | some line =>
    rw [step_of_submitted submits]
    by_cases normal : s.mode = .normal
    · have clearing : s.clears event = true ↔
          (dispatch line s.setting s.cwd s.backend).1.output = some .clear :=
        (clears_iff normal submits).trans dispatch_eq_clear_iff.symm
      refine (congrArg Surface.epoch (surface_submitLine normal line)).trans ?_
      rw [Surface.epoch_after]
      refine congrArg (s.epoch + ·) ?_
      split
      · rename_i clear
        rw [clearing.mpr clear]
        rfl
      · rename_i other
        rw [Bool.eq_false_iff.mpr (mt clearing.mp other)]
        rfl
    · rw [clears_of_not_normal normal]
      exact congrArg Surface.epoch (surface_submitLine_of_not_normal normal line)

/-- How often events in order clear the screen. -/
def clearings (s : Session σ) : List Event → Nat
  | [] => 0
  | event :: rest => (s.clears event).toNat + (s.step event).clearings rest

theorem epoch_run (s : Session σ) (events : List Event) :
    (s.run events).epoch = s.epoch + s.clearings events := by
  induction events generalizing s with
  | nil => rfl
  | cons event rest ih =>
    have later := ih (s.step event)
    rw [epoch_step, Nat.add_assoc] at later
    exact later

/-! ### The window after events -/

theorem Logged.suffix {s : Session σ} {events : List Event} {log : List Line}
    (logged : s.Logged events log) {before : List Line} (window : s.lines.items <:+ before) :
    (s.run events).lines.items <:+ before ++ log := by
  induction logged generalizing before with
  | nil s =>
    rw [List.append_nil]
    exact window
  | cons adds _ ih =>
    have next := ih (adds.keeps.suffix window)
    rw [List.append_assoc] at next
    exact next

theorem capacity_run (s : Session σ) (events : List Event) :
    (s.run events).lines.capacity = s.lines.capacity := by
  induction events generalizing s with
  | nil => rfl
  | cons event rest ih =>
    obtain ⟨lines, adds⟩ := s.adds_step event
    exact (ih (s.step event)).trans adds.capacity

/-- What an event does to the kept lines and the epoch, with the lines that it adds. -/
structure Slides (s : Session σ) (capacity : Nat) (event : Event) (lines : List Line) : Prop where
  /-- Added lines bear the next numbers. -/
  ids : lines.map (·.id) = List.range' s.nextId lines.length
  nextId : (s.step event).nextId = s.nextId + lines.length
  /-- Unless the screen is cleared, they stand behind the lines that were kept, and the newest of
  these and those are kept. -/
  items : (s.step event).lines.items = if s.clears event then [] else
    Ring.newest (max capacity 1) (s.lines.items ++ lines)
  epoch : (s.step event).epoch = s.epoch + (s.clears event).toNat

theorem slides_of_adds {s : Session σ} {capacity : Nat}
    (kept : s.lines.capacity = max capacity 1) {event : Event} {lines : List Line}
    (adds : Adds s.scrollback (s.step event).scrollback lines) : s.Slides capacity event lines where
  ids := adds.ids.1
  nextId := adds.ids.2
  items := by
    have epoch := s.epoch_step event
    rcases adds.keeps with ⟨same, items⟩ | ⟨next, none⟩
    · have stays : s.clears event = false := by
        have equal : (s.step event).epoch = s.epoch := same
        cases clears : s.clears event with
        | false => rfl
        | true => simp [clears, equal] at epoch
      rw [stays, if_neg (by simp), ← kept]
      exact items
    · have cleared : s.clears event = true := by
        have grown : (s.step event).epoch = s.epoch + 1 := next
        cases clears : s.clears event with
        | true => rfl
        | false => simp [clears, grown] at epoch
      rw [cleared, if_pos rfl]
      exact none
  epoch := s.epoch_step event

/-- What is kept is the end of all lines so far, the banner among them. -/
theorem window_of_logged (backend : σ) (site : Site) (host : Host) (capacity : Nat)
    {events : List Event} {log : List Line}
    (logged : ((start backend site host).withScrollback capacity).Logged events log) :
    let t := ((start backend site host).withScrollback capacity).run events
    (Viewing.bannerLine site :: log).map (·.id) = List.range t.nextId ∧
      t.lines.items <:+ Viewing.bannerLine site :: log := by
  intro t
  obtain ⟨ids, nextId⟩ := logged.ids
  have one : ((start backend site host).withScrollback capacity).nextId = 1 := rfl
  have window := logged.suffix (List.suffix_refl _)
  rw [Viewing.items_start] at window
  refine ⟨?_, window⟩
  rw [List.map_cons, ids, nextId, one, Nat.add_comm, List.range_eq_range', List.range'_succ]
  rfl

/-- A session that keeps so many lines, from its start on and after any events: the kept lines are
the last of all that have been printed, which bear the numbers from zero on, each once; the epoch
counts the clearings so far; and the next event appends its lines, unless it clears the screen. -/
theorem window_of_run (backend : σ) (site : Site) (host : Host) :
    (start backend site host).withScrollback scrollbackCapacity = start backend site host ∧
    ∀ (capacity : Nat) (events : List Event),
      let s := (start backend site host).withScrollback capacity
      let t := s.run events
      t.scrollback.IsWindow capacity ∧
      t.epoch = s.clearings events ∧
      ((∃ log, s.Logged events log) ∧ ∀ log, s.Logged events log →
        (Viewing.bannerLine site :: log).map (·.id) = List.range t.nextId ∧
          t.lines.items <:+ Viewing.bannerLine site :: log) ∧
      ∀ event, (∃ lines, Adds t.scrollback (t.step event).scrollback lines) ∧
        ∀ lines, Adds t.scrollback (t.step event).scrollback lines →
          t.Slides capacity event lines := by
  refine ⟨rfl, fun capacity events => ?_⟩
  intro s t
  have kept : t.lines.capacity = max capacity 1 :=
    (s.capacity_run events).trans (Ring.capacity_resize _ capacity)
  obtain ⟨log, logged⟩ := s.exists_logged events
  obtain ⟨ids, window⟩ := window_of_logged backend site host capacity logged
  refine ⟨isWindow_of_suffix window ids kept, ?_, ⟨⟨log, logged⟩, fun other also => ?_⟩,
    fun event => ?_⟩
  · exact (s.epoch_run events).trans (Nat.zero_add _)
  · exact window_of_logged backend site host capacity also
  · exact ⟨t.adds_step event, fun lines adds => slides_of_adds kept adds⟩

end Session

end PortfolioShell
