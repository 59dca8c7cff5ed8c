set_option autoImplicit false

namespace Datebook.Steps

variable {σ μ : Type} {step : σ → μ → Option σ}

def run (step : σ → μ → Option σ) : List μ → σ → Option σ
  | [], state => some state
  | move :: rest, state => (step state move).bind (run step rest)

theorem run_append {done rest : List μ} {state : σ} :
    run step (done ++ rest) state = (run step done state).bind (run step rest) := by
  induction done generalizing state with
  | nil => rfl
  | cons move done ih =>
      simp only [List.cons_append, run]
      cases step state move with
      | none => rfl
      | some next => exact ih

theorem run_past {done rest : List μ} {move : μ} {start state next : σ} (came : run step done start = some state)
    (stepped : step state move = some next) : run step (done ++ move :: rest) start = run step rest next := by
  rw [run_append, came, Option.bind_some, run, stepped, Option.bind_some]

theorem run_snoc {done : List μ} {move : μ} {start state next : σ} (came : run step done start = some state)
    (stepped : step state move = some next) : run step (done ++ [move]) start = some next :=
  run_past came stepped

theorem run_rest {done rest : List μ} {start state final : σ} (ran : run step (done ++ rest) start = some final)
    (came : run step done start = some state) : run step rest state = some final := by
  rwa [run_append, came] at ran

theorem exists_of_mem {moves : List μ} {start final : σ} (ran : run step moves start = some final) {move : μ}
    (member : move ∈ moves) :
    ∃ done rest state next, moves = done ++ move :: rest ∧ run step done start = some state ∧
      step state move = some next := by
  obtain ⟨done, rest, rfl⟩ := List.append_of_mem member
  rw [run_append] at ran
  obtain ⟨state, came, ran⟩ := Option.bind_eq_some_iff.mp ran
  obtain ⟨next, stepped, -⟩ := Option.bind_eq_some_iff.mp ran
  exact ⟨done, rest, state, next, rfl, came, stepped⟩

-- The steps of a run start from where it has come, and only moves of the run are made.
theorem run_keep {moves : List μ} {start final : σ} (holds : List μ → σ → Prop) (initial : holds [] start)
    (keep : ∀ done move rest state next, moves = done ++ move :: rest → run step done start = some state →
      step state move = some next → holds done state → holds (done ++ [move]) next)
    (ran : run step moves start = some final) : holds moves final := by
  -- The induction is on the moves to come, so those already made have to vary.
  suffices general : ∀ rest done state, moves = done ++ rest → run step done start = some state →
      holds done state → run step rest state = some final → holds moves final from
    general moves [] start rfl rfl initial ran
  intro rest
  induction rest with
  | nil =>
      intro done state whole came held ran
      cases ran
      rwa [whole, List.append_nil]
  | cons move rest ih =>
      intro done state whole came held ran
      obtain ⟨next, stepped, ran⟩ := Option.bind_eq_some_iff.mp ran
      have held := keep done move rest state next whole came stepped held
      exact ih (done ++ [move]) next (by simp [whole]) (run_snoc came stepped) held ran

theorem run_invariant {moves : List μ} {start final : σ} {holds : σ → Prop} (initial : holds start)
    (keep : ∀ state move next, move ∈ moves → step state move = some next → holds state → holds next)
    (ran : run step moves start = some final) : holds final := by
  refine run_keep (fun _ => holds) initial ?_ ran
  intro done move rest state next whole _ stepped held
  exact keep state move next (by simp [whole]) stepped held

end Datebook.Steps
