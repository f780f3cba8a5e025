import AccountServer.Store.Basic

/-!
# Runs of a store

A `StoreStep` is a call with what the outside supplies to it. A run performs steps one after the
other, whatever their answers. What every step keeps, every run keeps.
-/

namespace AccountServer

open PartialCompare

/-- One call to a store and what the outside supplies to it. -/
structure StoreStep where
  call : StoreCall
  around : Surroundings

/-- No clock reading is before an earlier one. -/
def StoreStep.ClockAdvances (steps : List StoreStep) : Prop :=
  steps.Pairwise fun earlier later => atMost earlier.around.now later.around.now = true

/-- The record that a call hands to a store. -/
def StoreCall.record? : StoreCall → Option User
  | .create u | .update _ u => some u
  | _ => none

/-- What holds of all times that a step hands to a store to keep. The other times of a record are
not kept. -/
structure StoreStep.TimesAll (P : Instant → Prop) (step : StoreStep) : Prop where
  now : P step.around.now
  lastLogin : ∀ u t, step.call.record? = some u → u.lastLogin = some t → P t
  lastLogout : ∀ u t, step.call.record? = some u → u.lastLogout = some t → P t

namespace AccountStore

variable {σ : Type} [AccountStore σ]

/-- The answer to a step. -/
def answer (step : StoreStep) (s : σ) : step.call.Answer := (perform step.call step.around s).1

/-- The state after a step. -/
def after (step : StoreStep) (s : σ) : σ := (perform step.call step.around s).2

/-- The state after some steps. -/
def run (s : σ) (steps : List StoreStep) : σ := steps.foldl (fun s step => after step s) s

@[simp] theorem run_nil (s : σ) : run s [] = s := rfl

@[simp] theorem run_cons (s : σ) (step : StoreStep) (rest : List StoreStep) :
    run s (step :: rest) = run (after step s) rest := rfl

/-- What every step of a run keeps holds at its end. -/
theorem run_keeps {Inv : σ → Prop} {steps : List StoreStep}
    (hstep : ∀ step ∈ steps, ∀ s, Inv s → Inv (after step s)) {s : σ} (h : Inv s) :
    Inv (run s steps) := by
  induction steps generalizing s with
  | nil => exact h
  | cons step rest ih =>
    rw [run_cons]
    exact ih (fun x hx => hstep x (List.mem_cons_of_mem _ hx)) (hstep step List.mem_cons_self s h)

end AccountStore

end AccountServer
