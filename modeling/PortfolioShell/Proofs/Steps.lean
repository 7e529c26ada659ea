import PortfolioShell.Session

/-!
# Steps of a backend

A step that is given a state answers and leaves a state; one step after the other begins where the
first has ended. A session hands its backend through such steps and changes nothing else by it.
-/
namespace PortfolioShell

variable {σ α β : Type}

theorem pure_apply (answer : α) (backend : σ) :
    (pure answer : StateM σ α) backend = (answer, backend) := rfl

theorem bind_apply (step : StateM σ α) (next : α → StateM σ β) (backend : σ) :
    (step >>= next) backend = next (step backend).1 (step backend).2 := rfl

theorem map_apply (tell : α → β) (step : StateM σ α) (backend : σ) :
    (tell <$> step) backend = (tell (step backend).1, (step backend).2) := rfl

theorem staying_apply (output : StateM σ Output) (backend : σ) :
    staying output backend = (⟨some (output backend).1, none⟩, (output backend).2) := rfl

namespace Session

/-- The session over another state of the backend. -/
def withBackend (s : Session σ) (backend : σ) : Session σ := { s with backend := backend }

theorem ask_eq (s : Session σ) (step : StateM σ α) :
    s.ask step = ((step s.backend).1, s.withBackend (step s.backend).2) := rfl

@[simp]
theorem setting_withBackend (s : Session σ) (backend : σ) :
    (s.withBackend backend).setting = s.setting := rfl

@[simp]
theorem mode_withBackend (s : Session σ) (backend : σ) :
    (s.withBackend backend).mode = s.mode := rfl

@[simp]
theorem cwd_withBackend (s : Session σ) (backend : σ) :
    (s.withBackend backend).cwd = s.cwd := rfl

@[simp]
theorem input_withBackend (s : Session σ) (backend : σ) :
    (s.withBackend backend).input = s.input := rfl

theorem prompt_withBackend (s : Session σ) (backend : σ) :
    (s.withBackend backend).prompt = s.prompt := rfl

theorem prompt_setInput (s : Session σ) (input : String) :
    (s.setInput input).prompt = s.prompt := rfl

theorem moveTo_none (s : Session σ) : s.moveTo none = s := rfl

theorem sync_eq [Backend σ] (s : Session σ) :
    s.sync = { s.withBackend (Backend.currentUser s.backend).2 with
      user := (Backend.currentUser s.backend).1 } := rfl

end Session

end PortfolioShell
