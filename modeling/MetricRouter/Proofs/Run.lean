import Mathlib

/-!
# Runs of machines

A machine answers calls one after another: `step s k` is the answer to the call `k` in the state `s` and
the state after it.

* `answers`, `after` — what a run answers, and the state that it ends in;
* `after_of_step` — what every step keeps, every run keeps;
* `answers_eq_of_sim` — two machines that simulate each other step by step answer alike.
-/

namespace MetricRouter.Run

variable {σ τ κ α : Type}

/-- The answers to calls that are made in order. -/
def answers (step : σ → κ → α × σ) (s : σ) : List κ → List α
  | [] => []
  | k :: rest => (step s k).1 :: answers step (step s k).2 rest

/-- The state after calls that are made in order. -/
def after (step : σ → κ → α × σ) (s : σ) : List κ → σ
  | [] => s
  | k :: rest => after step (step s k).2 rest

section Laws

variable {step : σ → κ → α × σ}

theorem length_answers (s : σ) (ks : List κ) : (answers step s ks).length = ks.length := by
  induction ks generalizing s with
  | nil => rfl
  | cons k ks ih => exact congrArg (· + 1) (ih (step s k).2)

theorem after_append (s : σ) (ks ls : List κ) :
    after step s (ks ++ ls) = after step (after step s ks) ls := by
  induction ks generalizing s with
  | nil => rfl
  | cons k ks ih => exact ih (step s k).2

theorem answers_append (s : σ) (ks ls : List κ) :
    answers step s (ks ++ ls) = answers step s ks ++ answers step (after step s ks) ls := by
  induction ks generalizing s with
  | nil => rfl
  | cons k ks ih => exact congrArg _ (ih (step s k).2)

theorem after_concat (s : σ) (ks : List κ) (k : κ) :
    after step s (ks ++ [k]) = (step (after step s ks) k).2 :=
  after_append s ks [k]

/-- **What every step keeps, every run keeps.** -/
theorem after_of_step {P : σ → Prop} {ks : List κ} (h : ∀ k ∈ ks, ∀ s, P s → P (step s k).2) {s : σ}
    (hs : P s) : P (after step s ks) := by
  induction ks generalizing s with
  | nil => exact hs
  | cons k ks ih =>
    exact ih (fun l hl => h l (List.mem_cons_of_mem _ hl)) (h k List.mem_cons_self s hs)

end Laws

/-- **Simulation.** Machines whose steps give the same answers in related states, and keep them related,
give the same answers to all calls. -/
theorem answers_eq_of_sim {step : σ → κ → α × σ} {step' : τ → κ → α × τ} {R : σ → τ → Prop}
    (h : ∀ s t k, R s t → (step s k).1 = (step' t k).1 ∧ R (step s k).2 (step' t k).2) {s : σ} {t : τ}
    (hst : R s t) (ks : List κ) :
    answers step s ks = answers step' t ks ∧ R (after step s ks) (after step' t ks) := by
  induction ks generalizing s t with
  | nil => exact ⟨rfl, hst⟩
  | cons k ks ih =>
    obtain ⟨hanswer, hnext⟩ := h s t k hst
    obtain ⟨hrest, hlast⟩ := ih hnext
    exact ⟨by rw [answers, answers, hanswer, hrest], hlast⟩

end MetricRouter.Run
