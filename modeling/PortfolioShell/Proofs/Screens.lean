import PortfolioShell.Proofs.Scrollback
import PortfolioShell.Screen.Basic

/-!
# What the screen prints

A screen looks at a session now and then. What it prints each time are the lines of the scrollback
that it has not printed before, without the echoes of input. Numbers only grow, over a clearing too,
so the last number seen tells what is new even when lines between have been evicted or cleared. A
screen that looks after every event misses no line, whatever the scrollback can hold.
-/
namespace PortfolioShell

namespace Screen

variable {lines : List Line} {line other : Line} {lastId : Option Nat}

/-- The last number seen in an epoch. -/
def reach (screen : Screen) (epoch : Nat) : Option Nat :=
  if epoch != screen.epoch then none else screen.lastId

theorem reach_same (lastId : Option Nat) (epoch : Nat) : reach ⟨lastId, epoch⟩ epoch = lastId := by
  simp [reach]

theorem reach_lt {screen : Screen} {bound : Nat} (below : ∀ n, screen.lastId = some n → n < bound)
    (epoch : Nat) : ∀ n, screen.reach epoch = some n → n < bound := by
  intro n hn
  rw [reach] at hn
  split at hn
  · cases hn
  · exact below n hn

/-! ### Going through the lines -/

theorem isNew_of_lt (new : isNew lastId line = true) (lt : line.id < other.id) :
    isNew lastId other = true := by
  cases lastId with
  | none => rfl
  | some n => simp only [isNew, decide_eq_true_eq] at new ⊢; omega

theorem isNew_self (line : Line) : isNew (some line.id) line = false :=
  decide_eq_false (Nat.lt_irrefl line.id)

theorem isNew_of_bound {bound : Nat} (below : ∀ n, lastId = some n → n < bound)
    (h : bound ≤ line.id) : isNew lastId line = true := by
  cases lastId with
  | none => rfl
  | some n =>
    have := below n rfl
    simp only [isNew, decide_eq_true_eq]
    omega

theorem fst_advance (increasing : lines.Pairwise (·.id < ·.id)) (lastId : Option Nat) :
    (advance lastId lines).1 = lines.filter (isNew lastId) := by
  induction lines generalizing lastId with
  | nil => rfl
  | cons line rest ih =>
    obtain ⟨first, rising⟩ := List.pairwise_cons.mp increasing
    rw [advance, List.filter_cons]
    split
    · rename_i new
      have same : rest.filter (isNew (some line.id)) = rest.filter (isNew lastId) := by
        refine List.filter_congr fun later hlater => ?_
        rw [isNew_of_lt new (first later hlater)]
        exact decide_eq_true (first later hlater)
      show line :: (advance (some line.id) rest).1 = _
      rw [ih rising, same]
    · exact ih rising lastId

/-- What has been passed stays passed. -/
theorem isNew_advance (passed : isNew lastId line = false) (lines : List Line) :
    isNew (advance lastId lines).2 line = false := by
  induction lines generalizing lastId with
  | nil => exact passed
  | cons first rest ih =>
    rw [advance]
    split
    · rename_i new
      refine ih ?_
      cases lastId with
      | none => cases passed
      | some n =>
        simp only [isNew, decide_eq_true_eq, decide_eq_false_iff_not] at new passed ⊢
        omega
    · exact ih passed

theorem passed_of_mem (h : line ∈ lines) (lastId : Option Nat) :
    isNew (advance lastId lines).2 line = false := by
  induction lines generalizing lastId with
  | nil => cases h
  | cons first rest ih =>
    rw [advance]
    split
    · rcases List.mem_cons.mp h with rfl | later
      · exact isNew_advance (isNew_self line) rest
      · exact ih later _
    · rename_i old
      rcases List.mem_cons.mp h with rfl | later
      · exact isNew_advance (Bool.eq_false_iff.mpr old) rest
      · exact ih later _

theorem snd_advance_lt {bound : Nat} (below : ∀ n, lastId = some n → n < bound)
    (linesBelow : ∀ line ∈ lines, line.id < bound) :
    ∀ n, (advance lastId lines).2 = some n → n < bound := by
  induction lines generalizing lastId with
  | nil => exact below
  | cons first rest ih =>
    have restBelow : ∀ line ∈ rest, line.id < bound :=
      fun line hline => linesBelow line (List.mem_cons_of_mem first hline)
    rw [advance]
    split
    · refine ih (fun n hn => ?_) restBelow
      rw [← Option.some.inj hn]
      exact linesBelow first List.mem_cons_self
    · exact ih below restBelow

end Screen

/-- The lines that are yet to be shown. -/
def Scrollback.due (b : Scrollback) (shown : List Line) : List Line :=
  b.lines.items.filter fun line => line.role != .input && !shown.contains line

/-- How far a screen has come with a scrollback, after it has shown some lines. -/
structure Tracks (b : Scrollback) (screen : Screen) (shown : List Line) : Prop where
  numbered : b.Numbered
  increasing : shown.Pairwise (·.id < ·.id)
  noInput : ∀ line ∈ shown, line.role ≠ .input
  below : ∀ line ∈ shown, line.id < b.nextId
  reached : ∀ n, screen.lastId = some n → n < b.nextId
  /-- What the screen takes for seen has been shown, -/
  seen : ∀ line ∈ b.lines.items, Screen.isNew (screen.reach b.epoch) line = false →
    line.role ≠ .input → line ∈ shown
  /-- and what it takes for new comes after everything shown. -/
  ahead : ∀ line ∈ b.lines.items, Screen.isNew (screen.reach b.epoch) line = true →
    ∀ old ∈ shown, old.id < line.id

namespace Tracks

open Scrollback

variable {b c : Scrollback} {screen : Screen} {shown lines : List Line}

theorem isNew_next (tracks : Tracks b screen shown) (role : LineRole) (data : LineData) :
    Screen.isNew (screen.reach b.epoch) (b.next role data) = true :=
  Screen.isNew_of_bound (Screen.reach_lt tracks.reached b.epoch) (Nat.le_refl b.nextId)

/-- The new line is new to the screen too: no number seen or shown is as high as its own. -/
theorem print (tracks : Tracks b screen shown) (role : LineRole) (data : LineData) :
    Tracks (b.print role data) screen shown where
  numbered := tracks.numbered.print role data
  increasing := tracks.increasing
  noInput := tracks.noInput
  below line hline := Nat.lt_succ_of_lt (tracks.below line hline)
  reached n hn := Nat.lt_succ_of_lt (tracks.reached n hn)
  seen := by
    intro line hline old told
    rcases mem_print hline with kept | rfl
    · exact tracks.seen line kept old told
    · have new := tracks.isNew_next role data
      exact absurd (new.symm.trans old) (by simp)
  ahead := by
    intro line hline new old hold
    rcases mem_print hline with kept | rfl
    · exact tracks.ahead line kept new old hold
    · exact tracks.below old hold

theorem clear (tracks : Tracks b screen shown) : Tracks b.clear screen shown where
  numbered := numbered_clear b
  increasing := tracks.increasing
  noInput := tracks.noInput
  below := tracks.below
  reached := tracks.reached
  seen line hline := by simp [Scrollback.clear] at hline
  ahead line hline := by simp [Scrollback.clear] at hline

theorem replies (tracks : Tracks b screen shown) (replies : Replies b c lines) :
    Tracks c screen shown := by
  cases replies with
  | silent => exact tracks
  | answer data => exact tracks.print .output data
  | cleared => exact tracks.clear

theorem adds (tracks : Tracks b screen shown) (adds : Adds b c lines) :
    Tracks c screen shown := by
  cases adds with
  | nothing => exact tracks
  | notice data => exact tracks.print .system data
  | typed data replies => exact (tracks.print .input data).replies replies

theorem resize (tracks : Tracks b screen shown) (capacity : Nat) :
    Tracks { b with lines := b.lines.resize capacity } screen shown :=
  have kept : ∀ line ∈ (b.lines.resize capacity).items, line ∈ b.lines.items :=
    fun _ hline => (b.lines.items_resize_suffix capacity).mem hline
  { increasing := tracks.increasing
    noInput := tracks.noInput
    below := tracks.below
    reached := tracks.reached
    numbered :=
      ⟨tracks.numbered.increasing.sublist (b.lines.items_resize_suffix capacity).sublist,
        fun line hline => tracks.numbered.below line (kept line hline)⟩
    seen := fun line hline => tracks.seen line (kept line hline)
    ahead := fun line hline => tracks.ahead line (kept line hline) }

/-! ### A look at the session -/

theorem isDue_iff (tracks : Tracks b screen shown) {line : Line} (hline : line ∈ b.lines.items)
    (told : line.role ≠ .input) :
    line ∉ shown ↔ Screen.isNew (screen.reach b.epoch) line = true := by
  constructor
  · intro unshown
    rw [← Bool.not_eq_false]
    exact fun old => unshown (tracks.seen line hline old told)
  · intro new hshown
    exact Nat.lt_irrefl _ (tracks.ahead line hline new line hshown)

/-- The screen finds just the lines that are due. -/
theorem due_eq (tracks : Tracks b screen shown) :
    b.due shown =
      (Screen.advance (screen.reach b.epoch) b.lines.items).1.filter (·.role != .input) := by
  rw [Screen.fst_advance tracks.numbered.increasing, List.filter_filter, due]
  refine List.filter_congr fun line hline => ?_
  by_cases told : line.role = .input
  · simp [told]
  · have isDue := tracks.isDue_iff hline told
    rw [Bool.eq_iff_iff]
    simp [told, isDue]

theorem mem_due {line : Line} :
    line ∈ b.due shown ↔ line ∈ b.lines.items ∧ line.role ≠ .input ∧ line ∉ shown := by
  simp [due]

theorem look (tracks : Tracks b screen shown) :
    Tracks b ⟨(Screen.advance (screen.reach b.epoch) b.lines.items).2, b.epoch⟩
      (shown ++ b.due shown) where
  numbered := tracks.numbered
  increasing := by
    rw [List.pairwise_append]
    refine ⟨tracks.increasing, tracks.numbered.increasing.sublist List.filter_sublist, ?_⟩
    intro old hold line hline
    obtain ⟨kept, told, unshown⟩ := mem_due.mp hline
    exact tracks.ahead line kept ((tracks.isDue_iff kept told).mp unshown) old hold
  noInput := by
    intro line hline
    rcases List.mem_append.mp hline with old | due
    · exact tracks.noInput line old
    · exact (mem_due.mp due).2.1
  below := by
    intro line hline
    rcases List.mem_append.mp hline with old | due
    · exact tracks.below line old
    · exact tracks.numbered.below line (mem_due.mp due).1
  reached := Screen.snd_advance_lt (Screen.reach_lt tracks.reached b.epoch) tracks.numbered.below
  seen := by
    intro line hline _ told
    by_cases old : line ∈ shown
    · exact List.mem_append_left _ old
    · exact List.mem_append_right _ (mem_due.mpr ⟨hline, told, old⟩)
  ahead := by
    intro line hline new
    rw [Screen.reach_same, Screen.passed_of_mem hline] at new
    cases new

/-! ### Nothing is missed -/

theorem due_look : b.due (shown ++ b.due shown) = [] := by
  rw [List.eq_nil_iff_forall_not_mem]
  intro line hline
  obtain ⟨kept, told, unshown⟩ := mem_due.mp hline
  rw [List.mem_append, not_or] at unshown
  exact unshown.2 (mem_due.mpr ⟨kept, told, unshown.1⟩)

theorem due_print (tracks : Tracks b screen shown) (done : b.due shown = []) (role : LineRole)
    (data : LineData) :
    (b.print role data).due shown = [b.next role data].filter (·.role != .input) := by
  obtain ⟨kept, suffix, hitems⟩ := b.items_print role data
  have unshown : b.next role data ∉ shown :=
    fun h => Nat.lt_irrefl _ (tracks.below _ h)
  have keptDone : kept.filter (fun line => line.role != .input && !shown.contains line) = [] :=
    List.eq_nil_of_sublist_nil (done ▸ suffix.sublist.filter _)
  rw [due, hitems, List.filter_append, keptDone, List.nil_append]
  refine List.filter_congr fun line hline => ?_
  simp [List.mem_singleton.mp hline, unshown]

/-- If nothing was due, an event makes due just the lines that it adds: an evicted line is either an
echo or has been shown. -/
theorem due_adds (tracks : Tracks b screen shown) (done : b.due shown = [])
    (adds : Adds b c lines) : c.due shown = lines.filter (·.role != .input) := by
  cases adds with
  | nothing => exact done
  | notice data => exact tracks.due_print done .system data
  | typed data replies =>
    -- An echo is never due, so it may be evicted, or cleared, before anybody looks.
    have echoed : (b.print .input data).due shown = [] := tracks.due_print done .input data
    have tracksEcho := tracks.print .input data
    cases replies with
    | silent => exact echoed
    | answer told => exact tracksEcho.due_print echoed .output told
    | cleared => rfl

end Tracks

/-- A session, the screen that looks at it, and the lines that have been shown so far. -/
structure Viewing (σ : Type) where
  session : Session σ
  screen : Screen
  shown : List Line

namespace Viewing

variable {σ : Type}

/-- What can happen while a session is looked at: events, what may happen between them, and looks
at it. -/
inductive Act (σ : Type) where
  | event (event : Event)
  | withScrollback (capacity : Nat)
  | register (spec : CommandSpec)
  | setClock (now : Time.LocalTime)
  | changeBackend (backend : σ)
  | render

/-- A session that nobody has looked at. -/
def opening (s : Session σ) : Viewing σ := ⟨s, .blank, []⟩

/-- The lines that are yet to be shown. -/
def due (v : Viewing σ) : List Line := v.session.scrollback.due v.shown

/-- What a look at the session prints. -/
def text (v : Viewing σ) : String := (v.screen.render v.session).1

/-- The session has been looked at. -/
def look (v : Viewing σ) : Viewing σ :=
  { v with screen := (v.screen.render v.session).2, shown := v.shown ++ v.due }

/-- Looks print each line once. -/
structure Faithful (v : Viewing σ) : Prop where
  /-- A look prints the lines that are due, behind the wiping of a cleared screen, -/
  prints : v.text = (if v.session.epoch = v.screen.epoch then "" else Screen.wipe) ++
    Text.join "" (v.due.map fun line => v.session.theme.palette.line line ++ "\n")
  /-- and another look prints nothing. -/
  again : v.look.text = ""
  /-- No line has been shown twice, and none out of order. -/
  inOrder : v.shown.Pairwise (·.id < ·.id)
  noInput : ∀ line ∈ v.shown, line.role ≠ .input

/-- The screen of a viewing is as far as what has been shown. -/
def Tracking (v : Viewing σ) : Prop := Tracks v.session.scrollback v.screen v.shown

theorem text_eq {v : Viewing σ} (tracking : v.Tracking) :
    v.text = (if v.session.epoch = v.screen.epoch then "" else Screen.wipe) ++
      Text.join "" (v.due.map fun line => v.session.theme.palette.line line ++ "\n") := by
  have wiped : (if v.session.epoch != v.screen.epoch then Screen.wipe else "") =
      if v.session.epoch = v.screen.epoch then "" else Screen.wipe := by
    by_cases same : v.session.epoch = v.screen.epoch <;> simp [same]
  have printed : Screen.printed v.session.theme.palette
      (Screen.advance (v.screen.reach v.session.epoch) v.session.lines.items).1 =
      Text.join "" (v.due.map fun line => v.session.theme.palette.line line ++ "\n") := by
    rw [Screen.printed, due, tracking.due_eq]
    rfl
  rw [← wiped, ← printed]
  rfl

theorem tracking_look {v : Viewing σ} (tracking : v.Tracking) : v.look.Tracking :=
  Tracks.look tracking

theorem due_look (v : Viewing σ) : v.look.due = [] := Tracks.due_look

theorem faithful_of_tracking {v : Viewing σ} (tracking : v.Tracking) : v.Faithful where
  prints := text_eq tracking
  again := by
    have same : v.look.session.epoch = v.look.screen.epoch := rfl
    rw [text_eq (tracking_look tracking), due_look, if_pos same]
    rfl
  inOrder := tracking.increasing
  noInput := tracking.noInput

/-! ### A new session -/

/-- The line that a session starts with. -/
def bannerLine (site : Site) : Line := ⟨0, .system, .rich (Info.banner site)⟩

theorem items_start (backend : σ) (site : Site) (host : Host) (capacity : Nat) :
    ((Session.start backend site host).withScrollback capacity).lines.items =
      [bannerLine site] := by
  have started : (Session.start backend site host).lines.items = [bannerLine site] :=
    Ring.items_insert_of_nil (Ring.items_empty _) _
  rw [Session.withScrollback, Ring.resize, started]
  exact Ring.items_insert_of_nil (Ring.items_empty capacity) _

theorem tracking_opening (backend : σ) (site : Site) (host : Host) (capacity : Nat) :
    (opening ((Session.start backend site host).withScrollback capacity)).Tracking := by
  have items := items_start backend site host capacity
  constructor
  case numbered =>
    refine ⟨?_, fun line hline => ?_⟩
    · rw [opening, Session.scrollback, items]
      exact List.pairwise_singleton ..
    · rw [opening, Session.scrollback, items, List.mem_singleton] at hline
      rw [hline]
      exact Nat.zero_lt_one
  case increasing => exact .nil
  case noInput => simp [opening]
  case below => simp [opening]
  case reached => simp [opening, Screen.blank]
  case seen =>
    intro line _ old
    cases old
  case ahead => simp [opening]

/-! ### Acts in order -/

variable [Backend σ]

/-- What becomes of a session and its screen. -/
def take (v : Viewing σ) : Act σ → Viewing σ
  | .event event => { v with session := v.session.step event }
  | .withScrollback capacity => { v with session := v.session.withScrollback capacity }
  | .register spec => { v with session := v.session.register spec }
  | .setClock now => { v with session := v.session.setClock now }
  | .changeBackend backend => { v with session := v.session.withBackend backend }
  | .render => v.look

/-- What becomes of them after acts in order. -/
def run (v : Viewing σ) (acts : List (Act σ)) : Viewing σ := acts.foldl take v

/-- A look at the session at once and after every event. -/
def promptly (events : List Event) : List (Act σ) :=
  .render :: events.flatMap fun event => [.event event, .render]

theorem tracking_take {v : Viewing σ} (tracking : v.Tracking) (act : Act σ) :
    (v.take act).Tracking := by
  cases act with
  | event event =>
    obtain ⟨lines, adds⟩ := v.session.adds_step event
    exact Tracks.adds tracking adds
  | withScrollback capacity => exact Tracks.resize tracking capacity
  | register spec => exact tracking
  | setClock now => exact tracking
  | changeBackend backend => exact tracking
  | render => exact tracking_look tracking

theorem tracking_run {v : Viewing σ} (tracking : v.Tracking) (acts : List (Act σ)) :
    (v.run acts).Tracking := by
  induction acts generalizing v with
  | nil => exact tracking
  | cons act rest ih => exact ih (tracking_take tracking act)

/-- Looks after every event show just what is added. -/
theorem shown_run {v : Viewing σ} (tracking : v.Tracking) (done : v.due = []) {events : List Event}
    {log : List Line} (logged : v.session.Logged events log) :
    (v.run (events.flatMap fun event => [.event event, .render])).shown =
      v.shown ++ log.filter (·.role != .input) := by
  induction events generalizing v log with
  | nil =>
    cases logged
    simp [run]
  | cons event rest ih =>
    cases logged with
    | @cons _ _ _ lines more adds logged =>
      let w := (v.take (.event event)).take .render
      have tracking' : w.Tracking := tracking_take (tracking_take tracking _) _
      have shown : w.shown = v.shown ++ lines.filter (·.role != .input) :=
        congrArg (v.shown ++ ·) (Tracks.due_adds tracking done adds)
      have rest_shown := ih (v := w) tracking' (due_look _) logged
      rw [List.filter_append, ← List.append_assoc, ← shown, ← rest_shown]
      rfl

/-- However a session is looked at, no line is printed twice. Looks at once and after every event
print every line that is not the echo of an input, in the order of their numbers. -/
theorem printed_once (backend : σ) (site : Site) (host : Host) (capacity : Nat) :
    let s := (Session.start backend site host).withScrollback capacity
    (∀ acts : List (Act σ), ((opening s).run acts).Faithful) ∧
      ∀ events, (∃ log, s.Logged events log) ∧ ∀ log, s.Logged events log →
        (bannerLine site :: log).map (·.id) = List.range (s.run events).nextId ∧
          ((opening s).run (promptly events)).shown =
            (bannerLine site :: log).filter (·.role != .input) := by
  intro s
  have tracking : (opening s).Tracking := tracking_opening backend site host capacity
  refine ⟨fun acts => faithful_of_tracking (tracking_run tracking acts), fun events => ?_⟩
  refine ⟨s.exists_logged events, fun log logged => ⟨?_, ?_⟩⟩
  · obtain ⟨ids, nextId⟩ := logged.ids
    have one : s.nextId = 1 := rfl
    rw [List.map_cons, ids, nextId, one, Nat.add_comm, List.range_eq_range', List.range'_succ]
    rfl
  · have first : (opening s).look.shown = [bannerLine site] := by
      have items : s.lines.items = [bannerLine site] := items_start backend site host capacity
      simp [opening, look, due, Scrollback.due, Session.scrollback, items, bannerLine]
    have rest := shown_run (v := (opening s).look) (tracking_look tracking) (due_look _) logged
    rw [first] at rest
    exact rest

end Viewing

end PortfolioShell
