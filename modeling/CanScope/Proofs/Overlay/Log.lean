import CanScope.Overlay
import CanScope.Proofs.Cache.History
import CanScope.Proofs.Cache.Ingest
import CanScope.Proofs.Gate.Run

/-!
# Runs of ticks and their log

An overlay ticks again and again, with any answers to its polls and any drains. `history` is the log
of such a run: all frames delivered since the last activation, each stamped with the moment of its
tick. Where time does not go back along a run, neither do the stamps (`ordered_history`).

A tick leaves a cache that says how it came about: as it was found or cleared if the gate is idle
(`Turn.cache_of_idle`), else with the frames delivered applied and then swept
(`Turn.cache_of_active`).
-/
namespace CanScope

open History

namespace Overlay

variable {σ : Type}

/-- The moment of a tick and its surroundings. -/
structure Call (σ : Type) where
  now : Instant
  answers : Answers σ
  /-- What draining a subscription would give. -/
  drain : σ → Except BusError (List Event)

abbrev Turn (σ : Type) := Step (Overlay σ) (Call σ)

namespace Turn

def tick (t : Turn σ) : Tick σ := t.found.tick t.input.now t.input.answers t.input.drain

/-- The overlay after the tick. -/
def left (t : Turn σ) : Overlay σ := t.tick.overlay

def report (t : Turn σ) : TickReport := t.tick.report

/-- The frames that the tick's drain delivers; an idle gate drains nothing. -/
def received (t : Turn σ) : List Frame :=
  match t.left.gate.subscription with
  | none => []
  | some s => delivered t.input.now (t.input.drain s)

end Turn

/-- The ticks of an overlay that is called as `calls` say. -/
def turns (o : Overlay σ) (calls : List (Call σ)) : List (Turn σ) :=
  trace (fun o c => (o.tick c.now c.answers c.drain).overlay) o calls

/-- Time does not go back. -/
def Timed (calls : List (Call σ)) : Prop := calls.Pairwise fun a b => a.now.nanos ≤ b.now.nanos

instance (calls : List (Call σ)) : Decidable (Timed calls) :=
  inferInstanceAs (Decidable (List.Pairwise _ calls))

/-- The ticks from the last activation on. -/
def sinceActivated (ts : List (Turn σ)) : List (Turn σ) :=
  ts.foldl (fun kept t => if t.report.transition = .activated then [t] else kept ++ [t]) []

/-- All frames delivered since the last activation, in order. -/
def history (ts : List (Turn σ)) : List Frame := (sinceActivated ts).flatMap Turn.received

/-- The moment of the last tick. -/
def clock (ts : List (Turn σ)) : Instant := (ts.getLast?.map (·.input.now)).getD ⟨0⟩

/-! ## One tick -/

theorem finish_of_none (o : Overlay σ) (now : Instant) {p : Poll σ}
    (drain : σ → Except BusError (List Event)) (h : p.gate.subscription = none) :
    (o.finish now p drain).overlay = o.afterPoll p ∧
      (o.finish now p drain).report.transition = p.transition := by
  have after : (o.afterPoll p).gate.subscription = none := h
  simp only [finish, after]
  exact ⟨rfl, rfl⟩

theorem finish_of_some (o : Overlay σ) (now : Instant) {p : Poll σ}
    (drain : σ → Except BusError (List Event)) {s : σ} (h : p.gate.subscription = some s) :
    (o.finish now p drain).overlay =
        ⟨p.gate, ((o.afterPoll p).cache.applyAll (delivered now (drain s))).sweep now⟩ ∧
      (o.finish now p drain).report.transition = p.transition ∧
      (o.finish now p drain).report.snapshot = (o.finish now p drain).overlay.snapshot now := by
  have after : (o.afterPoll p).gate.subscription = some s := h
  rw [← Cache.ingest_cache]
  simp only [finish, after]
  exact ⟨rfl, rfl, rfl⟩

namespace Turn

/-- The poll that the tick starts with. -/
def poll (t : Turn σ) : Poll σ := t.found.gate.poll t.input.now t.input.answers

theorem left_gate (t : Turn σ) : t.left.gate = t.poll.gate := by
  show (t.found.finish t.input.now t.poll t.input.drain).overlay.gate = t.poll.gate
  cases held : t.poll.gate.subscription with
  | none => rw [(finish_of_none _ _ _ held).1]; rfl
  | some s => rw [(finish_of_some _ _ _ held).1]

theorem report_transition (t : Turn σ) : t.report.transition = t.poll.transition := by
  show (t.found.finish t.input.now t.poll t.input.drain).report.transition = _
  cases held : t.poll.gate.subscription with
  | none => exact (finish_of_none _ _ _ held).2
  | some s => exact (finish_of_some _ _ _ held).2.1

theorem isActive_left (t : Turn σ) : t.left.isActive = t.poll.gate.isActive := by
  rw [Overlay.isActive, left_gate]

/-- The transition reported is the change of state. -/
theorem transition_eq (t : Turn σ) :
    t.report.transition =
      match t.found.isActive, t.left.isActive with
      | false, true => .activated
      | true, false => .deactivated
      | _, _ => .unchanged := by
  rw [report_transition, isActive_left]
  exact Gate.transition_eq t.found.gate t.input.now t.input.answers

theorem cache_of_idle {t : Turn σ} (idle : t.left.isActive = false) :
    t.left.cache = if t.report.transition = .deactivated then t.found.cache.clear
      else t.found.cache := by
  rw [isActive_left, Gate.isActive, Option.isSome_eq_false_iff, Option.isNone_iff_eq_none] at idle
  rw [report_transition]
  show (t.found.finish t.input.now t.poll t.input.drain).overlay.cache = _
  rw [(finish_of_none _ _ _ idle).1]
  rfl

theorem cache_of_active {t : Turn σ} (active : t.left.isActive = true) :
    t.left.cache = (t.found.cache.applyAll t.received).sweep t.input.now ∧
      t.report.snapshot = t.left.snapshot t.input.now := by
  have kept : t.poll.transition ≠ .deactivated := by
    rw [← report_transition, transition_eq, active]
    cases t.found.isActive <;> decide
  rw [isActive_left, Gate.isActive, Option.isSome_iff_exists] at active
  obtain ⟨s, held⟩ := active
  have before : (t.found.afterPoll t.poll).cache = t.found.cache := if_neg kept
  have came : t.received = delivered t.input.now (t.input.drain s) := by
    rw [received, left_gate, held]
  obtain ⟨overlay, -, snapshot⟩ := finish_of_some t.found t.input.now t.input.drain held
  refine ⟨?_, snapshot⟩
  show (t.found.finish t.input.now t.poll t.input.drain).overlay.cache = _
  rw [overlay, came, before]

end Turn

/-! ## The log -/

theorem history_append (ts : List (Turn σ)) (t : Turn σ) :
    history (ts ++ [t]) =
      (if t.report.transition = .activated then [] else history ts) ++ t.received := by
  simp only [history, sinceActivated, List.foldl_append, List.foldl_cons, List.foldl_nil]
  split
  · rw [List.flatMap_singleton, List.nil_append]
  · rw [List.flatMap_append, List.flatMap_singleton]

theorem sinceActivated_sublist (ts : List (Turn σ)) : (sinceActivated ts).Sublist ts := by
  induction ts using List.reverseRecOn with
  | nil => exact List.Sublist.refl []
  | append_singleton ts t ih =>
    simp only [sinceActivated, List.foldl_append, List.foldl_cons, List.foldl_nil]
    split
    · exact List.sublist_append_right ts [t]
    · exact ih.append (List.Sublist.refl [t])

theorem stamp_of_mem_received {t : Turn σ} {f : Frame} (h : f ∈ t.received) :
    f.stamp = t.input.now := by
  unfold Turn.received at h
  split at h
  · cases h
  · exact stamp_of_mem_delivered h

theorem ordered_history {ts : List (Turn σ)} (h : Timed (ts.map (·.input))) :
    Ordered (history ts) := by
  rw [Timed, List.pairwise_map] at h
  refine List.pairwise_flatMap.2 ⟨fun t _ => ?_, ?_⟩
  · refine List.pairwise_of_forall_mem_list fun f hf g hg => ?_
    rw [stamp_of_mem_received hf, stamp_of_mem_received hg]
  · refine (h.sublist (sinceActivated_sublist ts)).imp fun hle f hf g hg => ?_
    rw [stamp_of_mem_received hf, stamp_of_mem_received hg]
    exact hle

theorem clock_append (ts : List (Turn σ)) (t : Turn σ) : clock (ts ++ [t]) = t.input.now := by
  rw [clock, List.getLast?_append_cons, List.getLast?_singleton]
  rfl

theorem clock_le {ts : List (Turn σ)} {t : Turn σ} (h : Timed ((ts ++ [t]).map (·.input))) :
    (clock ts).nanos ≤ t.input.now.nanos := by
  rw [Timed, List.pairwise_map, List.pairwise_append] at h
  rw [clock]
  cases last : ts.getLast? with
  | none => exact Nat.zero_le _
  | some u => exact h.2.2 u (List.mem_of_getLast? last) t (by simp)

end Overlay

end CanScope
