import Datebook.Store.Request

set_option autoImplicit false

namespace Datebook.Store

structure Reply where
  request : Request
  result : request.Result

variable {σ τ : Type}

def replies (answer : σ → (request : Request) → request.Result × σ) : List Request → σ → List Reply × σ
  | [], state => ([], state)
  | request :: rest, state =>
      let (result, state) := answer state request
      let (others, state) := replies answer rest state
      (⟨request, result⟩ :: others, state)

variable {answer : σ → (request : Request) → request.Result × σ}
  {answer' : τ → (request : Request) → request.Result × τ}

theorem replies_keep (holds : List Request → σ → Prop)
    (step : ∀ request rest state, holds (request :: rest) state → holds rest (answer state request).2)
    {requests : List Request} {state : σ} (start : holds requests state) :
    holds [] (replies answer requests state).2 := by
  induction requests generalizing state with
  | nil => exact start
  | cons request rest ih => exact ih (step request rest state start)

theorem replies_agree (matching : List Request → σ → τ → Prop)
    (step : ∀ request rest left right, matching (request :: rest) left right →
      (answer left request).1 = (answer' right request).1 ∧
        matching rest (answer left request).2 (answer' right request).2)
    {requests : List Request} {left : σ} {right : τ} (start : matching requests left right) :
    (replies answer requests left).1 = (replies answer' requests right).1 := by
  induction requests generalizing left right with
  | nil => rfl
  | cons request rest ih =>
      obtain ⟨same, next⟩ := step request rest left right start
      simp only [replies, same, ih next]

end Datebook.Store
