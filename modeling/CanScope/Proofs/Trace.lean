import Mathlib.Data.List.Basic

/-!
# Traces

A machine that takes one input after the other leaves a trace: the state each step found, with the
input it was given. `trace_invariant` is the induction that all runs share. Its invariant may speak
of the steps taken so far as well as of the state they led to.
-/
namespace CanScope

structure Step (α ι : Type) where
  found : α
  input : ι

variable {α ι : Type}

/-- The steps of a machine with the step function `next` that starts at `s`. -/
def trace (next : α → ι → α) (s : α) : List ι → List (Step α ι)
  | [] => []
  | i :: is => ⟨s, i⟩ :: trace next (next s i) is

theorem map_input_trace (next : α → ι → α) (s : α) (inputs : List ι) :
    (trace next s inputs).map (·.input) = inputs := by
  induction inputs generalizing s with
  | nil => rfl
  | cons i is ih => simp only [trace, List.map_cons, ih]

/-- What holds at first and is kept by every step holds at the end of a run. -/
theorem trace_invariant_end {next : α → ι → α} (Inv : List (Step α ι) → α → Prop)
    (step : ∀ past t, Inv past t.found → Inv (past ++ [t]) (next t.found t.input))
    {s : α} (start : Inv [] s) (inputs : List ι) :
    Inv (trace next s inputs) (inputs.foldl next s) := by
  suffices h : ∀ inputs past s, Inv past s →
      Inv (past ++ trace next s inputs) (inputs.foldl next s) from h inputs [] s start
  intro inputs
  induction inputs with
  | nil =>
    intro past s inv
    rwa [trace, List.append_nil]
  | cons i is ih =>
    intro past s inv
    rw [trace, List.append_cons]
    exact ih _ _ (step past ⟨s, i⟩ inv)

/-- What holds at first and is kept by every step holds wherever a run is cut. -/
theorem trace_invariant {next : α → ι → α} (Inv : List (Step α ι) → α → Prop)
    (step : ∀ past t, Inv past t.found → Inv (past ++ [t]) (next t.found t.input))
    {s : α} (start : Inv [] s) {inputs : List ι} {before after : List (Step α ι)} {t : Step α ι}
    (cut : trace next s inputs = before ++ t :: after) : Inv before t.found := by
  suffices h : ∀ inputs past before s, Inv past s → trace next s inputs = before ++ t :: after →
      Inv (past ++ before) t.found from h inputs [] before s start cut
  intro inputs
  induction inputs with
  | nil => intro past before s _ cut; cases before <;> cases cut
  | cons i is ih =>
    intro past before s inv cut
    cases before with
    | nil =>
      obtain ⟨rfl, -⟩ := List.cons.inj cut
      rwa [List.append_nil]
    | cons b bs =>
      obtain ⟨rfl, rest⟩ := List.cons.inj cut
      rw [List.append_cons]
      exact ih _ bs _ (step past ⟨s, i⟩ inv) rest

end CanScope
