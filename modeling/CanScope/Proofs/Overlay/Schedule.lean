import CanScope.Proofs.Overlay.Log

/-!
# When a tick turns to its surroundings

A tick may read the flag, ask for a subscription, and drain the one it holds. `Overlay.dialogue` is
the tick with the surroundings outside: it names one request after the other and goes on with the
answer to that request alone. `Turn.dialogue_result` shows that it ends as the tick does, so
`Turn.requests` and `Turn.drains` are all that a tick asked for.

**Time.** Moments may go back from one tick to the next. A read is due when more than the poll
interval has passed since the last one, so the times of the reads go forward all the same
(`Tracks.spaced`), whatever the reads and the subscriptions gave.

**Results.**
* `ticks_metered`: along every run of a new overlay the flag is read at the first tick and then
  exactly when it is due, a tick that is not due asks its poll's surroundings for nothing, and the
  number of drains is the number of ticks that end active (`Metered`).
-/
namespace CanScope

variable {σ ρ τ : Type}

namespace Dialogue

/-- Puts what comes of a dialogue through `f`. -/
def map (f : ρ → τ) : Dialogue σ ρ → Dialogue σ τ
  | .done r => .done (f r)
  | .flag key next => .flag key fun a => (next a).map f
  | .subscription channel conflate next =>
    .subscription channel conflate fun a => (next a).map f

theorem requests_map (f : ρ → τ) (answers : Answers σ) (d : Dialogue σ ρ) :
    (d.map f).requests answers = d.requests answers := by
  induction d with
  | done r => rfl
  | flag key next ih => simp only [map, requests, ih]
  | subscription channel conflate next ih => simp only [map, requests, ih]

theorem result_map (f : ρ → τ) (answers : Answers σ) (d : Dialogue σ ρ) :
    (d.map f).result answers = f (d.result answers) := by
  induction d with
  | done r => rfl
  | flag key next ih => simp only [map, result, ih]
  | subscription channel conflate next ih => simp only [map, result, ih]

end Dialogue

/-- What a tick does once its poll is over: it drains a subscription, or nothing more. -/
inductive Intake (σ ρ : Type) where
  | none (result : ρ)
  | drain (s : σ) (next : Except BusError (List Event) → ρ)

namespace Intake

/-- The subscriptions drained. -/
def drains : Intake σ ρ → List σ
  | .none _ => []
  | .drain s _ => [s]

/-- What comes of it if draining gives what `drain` says. -/
def result (drain : σ → Except BusError (List Event)) : Intake σ ρ → ρ
  | .none r => r
  | .drain s next => next (drain s)

end Intake

namespace Gate

/-! ## The reads of one poll -/

theorem poll_read (g : Gate σ) (now : Instant) (a : Answers σ) :
    (g.poll now a).read = g.checkDue now := by
  cases g.poll_outcome now a with
  | early due _ _ read => rw [read, due]
  | activated s due _ _ _ _ _ read => rw [read, due]
  | refused e due _ _ _ _ _ read => rw [read, due]
  | deactivated s due _ _ _ _ read => rw [read, due]
  | kept due _ _ _ read => rw [read, due]

/-- A read is noted with its time, also when it fails or the subscription after it is refused. -/
theorem poll_lastChecked (g : Gate σ) (now : Instant) (a : Answers σ) :
    (g.poll now a).gate.lastChecked = if g.checkDue now then some now else g.lastChecked := by
  cases g.poll_outcome now a with
  | early due gate => rw [gate, due]; rfl
  | activated s due _ _ _ gate => rw [gate, due]; rfl
  | refused e due _ _ _ gate => rw [gate, due]; rfl
  | deactivated s due _ _ gate => rw [gate, due]; rfl
  | kept due _ gate => rw [gate, due]; rfl

theorem checkDue_iff (g : Gate σ) (now : Instant) :
    g.checkDue now = true ↔ ∀ last, g.lastChecked = some last →
      last.nanos + g.settings.pollInterval.nanos < now.nanos := by
  unfold checkDue
  cases g.lastChecked with
  | none => simp
  | some last =>
    simp only [decide_eq_true_eq, Span.lt_def, Instant.since_nanos, Option.some.injEq, forall_eq']
    omega

end Gate

namespace Overlay

/-- The tick of `o` after a poll that left the gate as `g`. -/
def intake (o : Overlay σ) (now : Instant) (g : Gate σ) (transition : Transition) :
    Intake σ (Overlay σ × TickReport) :=
  let polled : Overlay σ := ⟨g, if transition = .deactivated then o.cache.clear else o.cache⟩
  match g.subscription with
  | none => .none (polled, ⟨transition, 0, 0, none, .empty⟩)
  | some s => .drain s fun drained =>
    let t := polled.refresh now transition drained
    (t.overlay, t.report)

/-- A tick at `now`, request by request. -/
def dialogue (o : Overlay σ) (now : Instant) :
    Dialogue σ (Intake σ (Overlay σ × TickReport)) :=
  (o.gate.dialogue now).map fun polled => o.intake now polled.1 polled.2

namespace Turn

/-- What the tick's poll asks of its surroundings. -/
def requests (t : Turn σ) : List Request :=
  (t.found.dialogue t.input.now).requests t.input.answers

/-- How often the tick reads the flag. -/
def reads (t : Turn σ) : Nat := t.requests.countP fun r => !r.isSubscription

/-- The subscriptions that the tick drains. -/
def drains (t : Turn σ) : List σ :=
  ((t.found.dialogue t.input.now).result t.input.answers).drains

end Turn

/-- The ticks that read the flag. -/
def readings (ts : List (Turn σ)) : List (Turn σ) := ts.filter fun t => decide (0 < t.reads)

/-- When the flag was read. -/
def readTimes (ts : List (Turn σ)) : List Instant := (readings ts).map (·.input.now)

/-- After the ticks of `past`, a read is due at `now`: there was none, or the last read lies more
than `interval` back. -/
def Due (interval : Span) (past : List (Turn σ)) (now : Instant) : Prop :=
  past = [] ∨ ∃ last, (readTimes past).getLast? = some last ∧
    last.nanos + interval.nanos < now.nanos

/-- What the ticks of a run ask of their surroundings, and when. -/
structure Metered (interval : Span) (ts : List (Turn σ)) : Prop where
  reads : ∀ past t rest, ts = past ++ t :: rest →
    t.reads ≤ 1 ∧ (t.reads = 1 ↔ Due interval past t.input.now)
  quiet : ∀ past t rest, ts = past ++ t :: rest → ¬Due interval past t.input.now →
    t.requests = [] ∧ t.left.gate = t.found.gate
  spaced : (readTimes ts).Pairwise fun a b => a.nanos + interval.nanos < b.nanos
  /-- The gate notes the time of every read. -/
  noted : (readings ts).map (·.left.gate.lastChecked) = (readTimes ts).map some
  drains : ∀ t ∈ ts, t.drains.length = if t.left.isActive then 1 else 0
  total : (ts.flatMap Turn.drains).length = ts.countP (·.left.isActive)

/-! ## One tick -/

namespace Turn

theorem requests_eq (t : Turn σ) : t.requests = t.poll.requests t.found.gate.settings := by
  rw [requests, dialogue, Dialogue.requests_map]
  exact (Gate.poll_dialogue t.found.gate t.input.now t.input.answers).2

theorem intake_eq (t : Turn σ) : (t.found.dialogue t.input.now).result t.input.answers =
    t.found.intake t.input.now t.poll.gate t.poll.transition := by
  rw [dialogue, Dialogue.result_map,
    (Gate.poll_dialogue t.found.gate t.input.now t.input.answers).1]
  rfl

/-- A tick does what its dialogue does. -/
theorem dialogue_result (t : Turn σ) :
    ((t.found.dialogue t.input.now).result t.input.answers).result t.input.drain =
      (t.left, t.report) := by
  rw [intake_eq]
  show _ = ((t.found.finish t.input.now t.poll t.input.drain).overlay,
    (t.found.finish t.input.now t.poll t.input.drain).report)
  simp only [intake, finish, afterPoll]
  cases t.poll.gate.subscription <;> rfl

theorem drains_eq (t : Turn σ) : t.drains = t.left.gate.subscription.toList := by
  rw [drains, intake_eq, left_gate, intake]
  cases t.poll.gate.subscription <;> rfl

theorem length_drains (t : Turn σ) : t.drains.length = if t.left.isActive then 1 else 0 := by
  rw [drains_eq, Overlay.isActive, Gate.isActive]
  cases t.left.gate.subscription <;> rfl

theorem reads_eq (t : Turn σ) :
    t.reads = if t.found.gate.checkDue t.input.now then 1 else 0 := by
  have read : t.poll.read = t.found.gate.checkDue t.input.now := Gate.poll_read _ _ _
  rw [reads, requests_eq, Poll.requests, read]
  cases t.found.gate.checkDue t.input.now <;> cases t.poll.asked <;> rfl

/-- A tick that is not due asks for nothing and leaves the gate as it was. -/
theorem quiet_of_not_due {t : Turn σ} (h : t.found.gate.checkDue t.input.now = false) :
    t.requests = [] ∧ t.left.gate = t.found.gate := by
  have early := t.found.gate.poll_of_not_due t.input.now t.input.answers h
  rw [requests_eq, left_gate, poll, early]
  exact ⟨rfl, rfl⟩

theorem lastChecked_left (t : Turn σ) : t.left.gate.lastChecked =
    if t.found.gate.checkDue t.input.now then some t.input.now else t.found.gate.lastChecked := by
  rw [left_gate]
  exact Gate.poll_lastChecked _ _ _

end Turn

/-! ## The times of the reads -/

theorem readings_append (ts : List (Turn σ)) (t : Turn σ) : readings (ts ++ [t]) =
    if t.found.gate.checkDue t.input.now then readings ts ++ [t] else readings ts := by
  rw [readings, List.filter_append, List.filter_singleton, t.reads_eq]
  cases t.found.gate.checkDue t.input.now
  · exact List.append_nil _
  · rfl

theorem readTimes_append (ts : List (Turn σ)) (t : Turn σ) : readTimes (ts ++ [t]) =
    if t.found.gate.checkDue t.input.now then readTimes ts ++ [t.input.now]
    else readTimes ts := by
  rw [readTimes, readings_append]
  split
  · exact List.map_append
  · rfl

/-- What the gate of an overlay that ticked as in `past` knows of its reads. -/
structure Tracks (settings : Gate.Settings) (past : List (Turn σ)) (o : Overlay σ) : Prop where
  settings_eq : o.gate.settings = settings
  begun : past ≠ [] → o.gate.lastChecked.isSome = true
  last_eq : o.gate.lastChecked = (readTimes past).getLast?
  latest : ∀ a ∈ readTimes past, ∀ last, o.gate.lastChecked = some last → a.nanos ≤ last.nanos
  spaced : (readTimes past).Pairwise fun a b =>
    a.nanos + settings.pollInterval.nanos < b.nanos
  noted : (readings past).map (·.left.gate.lastChecked) = (readTimes past).map some

theorem tracks_new (settings : Settings) :
    Tracks settings.gate [] (new settings : Overlay σ) where
  settings_eq := rfl
  begun h := absurd rfl h
  last_eq := rfl
  latest _ h := by cases h
  spaced := .nil
  noted := rfl

theorem Tracks.due_iff {settings : Gate.Settings} {past : List (Turn σ)} {t : Turn σ}
    (h : Tracks settings past t.found) :
    t.found.gate.checkDue t.input.now = true ↔ Due settings.pollInterval past t.input.now := by
  rw [Gate.checkDue_iff, h.settings_eq, Due, ← h.last_eq]
  constructor
  · intro late
    rcases List.eq_nil_or_concat past with rfl | ⟨_, _, rfl⟩
    · exact .inl rfl
    · obtain ⟨last, checked⟩ := Option.isSome_iff_exists.1 (h.begun (by simp))
      exact .inr ⟨last, checked, late last checked⟩
  · rintro (rfl | ⟨last, checked, late⟩) last' checked'
    · rw [h.last_eq] at checked'
      cases checked'
    · rw [checked] at checked'
      cases checked'
      exact late

/-- Every read so far lies at or before the last one, and a read that is due more than the interval
after that. -/
theorem Tracks.before_due {settings : Gate.Settings} {past : List (Turn σ)} {t : Turn σ}
    (h : Tracks settings past t.found) (due : t.found.gate.checkDue t.input.now = true) :
    ∀ a ∈ readTimes past, a.nanos + settings.pollInterval.nanos < t.input.now.nanos := by
  intro a ha
  have late := (t.found.gate.checkDue_iff t.input.now).1 due
  rw [h.settings_eq] at late
  have some_past : past ≠ [] := by
    rintro rfl
    cases ha
  obtain ⟨last, checked⟩ := Option.isSome_iff_exists.1 (h.begun some_past)
  have := h.latest a ha last checked
  have := late last checked
  omega

theorem settings_left (t : Turn σ) : t.left.gate.settings = t.found.gate.settings := by
  rw [t.left_gate]
  exact Gate.poll_settings _ _ _

theorem Tracks.step_of_not_due {settings : Gate.Settings} {past : List (Turn σ)} {t : Turn σ}
    (h : Tracks settings past t.found) (early : t.found.gate.checkDue t.input.now = false) :
    Tracks settings (past ++ [t]) t.left := by
  have left := t.lastChecked_left
  have times := readTimes_append past t
  have readers := readings_append past t
  rw [early, if_neg Bool.false_ne_true] at left times readers
  refine ⟨(settings_left t).trans h.settings_eq, fun _ => ?_, ?_, ?_, ?_, ?_⟩
  · -- a gate that was never checked would be due
    rw [left, Option.isSome_iff_ne_none]
    intro never
    have late := (t.found.gate.checkDue_iff t.input.now).2 (by simp [never])
    rw [early] at late
    cases late
  · rw [left, times, h.last_eq]
  · rw [left, times]; exact h.latest
  · rw [times]; exact h.spaced
  · rw [times, readers]; exact h.noted

theorem Tracks.step_of_due {settings : Gate.Settings} {past : List (Turn σ)} {t : Turn σ}
    (h : Tracks settings past t.found) (due : t.found.gate.checkDue t.input.now = true) :
    Tracks settings (past ++ [t]) t.left := by
  have before := h.before_due due
  have left := t.lastChecked_left
  have times := readTimes_append past t
  have readers := readings_append past t
  rw [due, if_pos rfl] at left times readers
  refine ⟨(settings_left t).trans h.settings_eq, fun _ => by rw [left]; rfl, ?_, ?_, ?_, ?_⟩
  · rw [left, times, List.getLast?_append_cons, List.getLast?_singleton]
  · intro a ha last checked
    rw [left, Option.some.injEq] at checked
    subst checked
    rw [times, List.mem_append, List.mem_singleton] at ha
    rcases ha with ha | rfl
    · have := before a ha
      omega
    · exact Nat.le_refl _
  · rw [times, List.pairwise_append]
    refine ⟨h.spaced, List.pairwise_singleton _ _, fun a ha b hb => ?_⟩
    rw [List.mem_singleton.1 hb]
    exact before a ha
  · rw [times, readers, List.map_append, List.map_append, h.noted, List.map_singleton,
      List.map_singleton, left]

theorem Tracks.step {settings : Gate.Settings} (past : List (Turn σ)) (t : Turn σ)
    (h : Tracks settings past t.found) : Tracks settings (past ++ [t]) t.left := by
  cases due : t.found.gate.checkDue t.input.now with
  | false => exact h.step_of_not_due due
  | true => exact h.step_of_due due

/-! ## Whole runs -/

theorem turns_track {settings : Settings} {calls : List (Call σ)} {past rest : List (Turn σ)}
    {t : Turn σ} (cut : (new settings).turns calls = past ++ t :: rest) :
    Tracks settings.gate past t.found :=
  trace_invariant (Tracks settings.gate) Tracks.step (tracks_new settings) cut

theorem length_flatMap_drains (ts : List (Turn σ)) :
    (ts.flatMap Turn.drains).length = ts.countP (·.left.isActive) := by
  induction ts with
  | nil => rfl
  | cons t rest ih =>
    rw [List.flatMap_cons, List.length_append, ih, t.length_drains, List.countP_cons, Nat.add_comm]

/-- **Reads are spaced out, and drains go with activity.** Along every run of a new overlay, at any
moments and whatever the surroundings answer, the flag is read exactly when a read is due, a tick
without a read asks for nothing, and every tick that ends active drains once, no other. -/
theorem ticks_metered (settings : Settings) (calls : List (Call σ)) :
    Metered settings.gate.pollInterval ((new settings).turns calls) := by
  have run : Tracks settings.gate ((new settings).turns calls) _ :=
    trace_invariant_end (Tracks settings.gate) Tracks.step (tracks_new settings) calls
  refine ⟨?_, ?_, run.spaced, run.noted, fun t _ => t.length_drains, length_flatMap_drains _⟩
  · intro past t rest cut
    rw [t.reads_eq, ← (turns_track cut).due_iff]
    cases t.found.gate.checkDue t.input.now <;> decide
  · intro past t rest cut early
    rw [← (turns_track cut).due_iff, Bool.not_eq_true] at early
    exact Turn.quiet_of_not_due early

end Overlay

end CanScope
