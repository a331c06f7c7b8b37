import CanScope.Proofs.Gate.Run

/-!
# Retrying a refused subscription

A read that fails is meant to leave the value of the flag as it was last read, and a subscription
that is refused is meant to be asked for again at the next read. Together: a poll that reads the flag
while no subscription is held asks for one exactly if the last value that could be read is on.

**Where it fails.** A refusal turns `Gate.enabled` off. A read that fails afterwards then keeps that
value and not the one that was read, so nothing is asked for. This goes on until a read succeeds.

**Results.**
* `subscribes_iff`: an idle gate that reads its flag asks for a subscription exactly if this very
  read found the flag on. That is what the last value asks for, unless the read failed and the last
  one that did not was answered with a refusal (`OpenRefusal`).
* `unread_flag_is_not_retried`: a run of two polls where the two differ.
-/
namespace CanScope

namespace Gate

variable {σ : Type}

/-- The value that the poll read; a flag that is not set is off. -/
def Turn.value? (t : Turn σ) : Option Bool :=
  if t.found.checkDue t.input.now then
    match t.input.answers.flag with
    | .ok value => some (value.getD false)
    | .error _ => none
  else none

/-- The last poll whose read succeeded. -/
def lastRead (ts : List (Turn σ)) : Option (Turn σ) :=
  (ts.filter (·.value?.isSome)).getLast?

/-- The value it read; off before any. -/
def lastValue (ts : List (Turn σ)) : Bool := ((lastRead ts).bind Turn.value?).getD false

/-- The last read that succeeded found the flag on, and its subscription was refused. -/
def OpenRefusal (ts : List (Turn σ)) : Prop :=
  ∃ t, lastRead ts = some t ∧ t.value? = some true ∧ 0 < t.subscribes ∧ t.left.isActive = false

/-! ## Reads -/

theorem lastRead_append (ts : List (Turn σ)) (t : Turn σ) :
    lastRead (ts ++ [t]) = if t.value?.isSome then some t else lastRead ts := by
  unfold lastRead
  rw [List.filter_append, List.filter_singleton]
  cases t.value?.isSome with
  | true => rw [cond_true, List.getLast?_append_cons, List.getLast?_singleton]; rfl
  | false => rw [cond_false, List.append_nil]; rfl

theorem lastValue_append (ts : List (Turn σ)) (t : Turn σ) :
    lastValue (ts ++ [t]) = t.value?.getD (lastValue ts) := by
  rw [lastValue, lastRead_append]
  cases read : t.value? with
  | none => rfl
  | some b => rw [Option.isSome_some, if_pos rfl, Option.bind_some, read]; rfl

theorem lastValue_of_openRefusal {ts : List (Turn σ)} (h : OpenRefusal ts) :
    lastValue ts = true := by
  obtain ⟨t, last, on, -⟩ := h
  rw [lastValue, last, Option.bind_some, on]
  rfl

/-- A read that succeeded is what the gate goes by, one that failed leaves it its own value. -/
theorem Turn.enabled_observe (t : Turn σ) (due : t.found.checkDue t.input.now = true) :
    (t.found.observe t.input.now t.input.answers.flag).enabled =
      t.value?.getD t.found.enabled := by
  rw [value?, if_pos due]
  cases t.input.answers.flag <;> rfl

theorem Turn.subscribes_pos_iff (t : Turn σ) :
    0 < t.subscribes ↔ t.found.checkDue t.input.now = true ∧
      t.value?.getD t.found.enabled = true ∧ t.found.isActive = false := by
  have asked : 0 < t.subscribes ↔ t.poll.asked = true := by
    rw [subscribes_eq]
    cases t.poll.asked <;> simp
  rw [asked, poll, poll_asked_iff]
  constructor
  · rintro ⟨due, on, idle⟩
    exact ⟨due, by rw [← t.enabled_observe due, on], idle⟩
  · rintro ⟨due, on, idle⟩
    exact ⟨due, by rw [t.enabled_observe due, on], idle⟩

/-! ## What an idle gate has behind it -/

/-- A gate without a subscription whose last read found the flag on has been refused one. -/
structure Refused (past : List (Turn σ)) (g : Gate σ) : Prop where
  agrees : g.enabled = g.isActive
  refused : g.isActive = false → lastValue past = true → OpenRefusal past

theorem Refused.new (settings : Settings) : Refused [] (new settings : Gate σ) :=
  ⟨rfl, fun _ on => by cases on⟩

/-- A poll that reads the flag as on and ends idle was refused. -/
theorem Turn.refused_of_idle {t : Turn σ} (on : t.value? = some true)
    (idle : t.left.isActive = false) : 0 < t.subscribes := by
  have due : t.found.checkDue t.input.now = true := by
    rw [value?] at on
    split at on
    · assumption
    · cases on
  have enabled := t.enabled_observe due
  rw [on, Option.getD_some] at enabled
  refine t.subscribes_pos_iff.mpr ⟨due, by rw [on]; rfl, ?_⟩
  rw [left, poll] at idle
  cases t.found.poll_outcome t.input.now t.input.answers with
  | early early => rw [due] at early; cases early
  | activated s _ _ was => exact isActive_of_none was
  | refused e _ _ was => exact isActive_of_none was
  | deactivated s _ off => rw [enabled] at off; cases off
  | kept _ agree gate => rwa [gate, isActive_observe] at idle

/-- A poll that reads nothing leaves the gate as active as it was. -/
theorem Turn.isActive_left_of_unread {t : Turn σ} (agrees : t.found.enabled = t.found.isActive)
    (unread : t.value? = none) : t.left.isActive = t.found.isActive := by
  have same (due : t.found.checkDue t.input.now = true) :
      (t.found.observe t.input.now t.input.answers.flag).enabled = t.found.isActive := by
    rw [t.enabled_observe due, unread, Option.getD_none, agrees]
  rw [left, poll]
  cases t.found.poll_outcome t.input.now t.input.answers with
  | early _ gate => rw [gate]
  | activated s due on idle =>
    rw [same due, isActive_of_none idle] at on
    cases on
  | refused e due on idle =>
    rw [same due, isActive_of_none idle] at on
    cases on
  | deactivated s due off held =>
    rw [same due, isActive_of_some held] at off
    cases off
  | kept _ _ gate => rw [gate, isActive_observe]

theorem Refused.step (past : List (Turn σ)) (t : Turn σ) (h : Refused past t.found) :
    Refused (past ++ [t]) t.left where
  agrees := poll_agrees _ _ _ h.agrees
  refused idle on := by
    rw [lastValue_append] at on
    cases read : t.value? with
    | some b =>
      rw [read, Option.getD_some] at on
      subst on
      refine ⟨t, ?_, read, Turn.refused_of_idle read idle, idle⟩
      rw [lastRead_append, read, Option.isSome_some, if_pos rfl]
    | none =>
      rw [read, Option.getD_none] at on
      rw [Turn.isActive_left_of_unread h.agrees read] at idle
      obtain ⟨r, last, rest⟩ := h.refused idle on
      refine ⟨r, ?_, rest⟩
      rw [lastRead_append, read, Option.isSome_none, if_neg Bool.false_ne_true, last]

theorem turns_refused {settings : Settings} {calls : List (Call σ)}
    {before after : List (Turn σ)} {t : Turn σ}
    (cut : (new settings).turns calls = before ++ t :: after) : Refused before t.found :=
  trace_invariant Refused Refused.step (Refused.new settings) cut

/-! ## When a subscription is asked for -/

/-- A poll that reads the flag while the gate is idle asks for a subscription exactly if it read the
flag as on. The last value read says the same, unless this read failed under an open refusal. -/
theorem subscribes_iff {settings : Settings} {calls : List (Call σ)}
    {before after : List (Turn σ)} {t : Turn σ}
    (cut : (new settings).turns calls = before ++ t :: after)
    (due : t.found.checkDue t.input.now = true) (idle : t.found.isActive = false) :
    (0 < t.subscribes ↔ t.value? = some true) ∧
      ((0 < t.subscribes ↔ lastValue (before ++ [t]) = true) ↔
        ¬(t.value? = none ∧ OpenRefusal before)) := by
  have run := turns_refused cut
  have off : t.found.enabled = false := run.agrees.trans idle
  have asks : 0 < t.subscribes ↔ t.value? = some true := by
    rw [t.subscribes_pos_iff, off]
    cases t.value? <;> simp [due, idle]
  refine ⟨asks, ?_⟩
  rw [asks, lastValue_append]
  cases read : t.value? with
  | some b => simp
  | none =>
    have open_iff : lastValue before = true ↔ OpenRefusal before :=
      ⟨run.refused idle, lastValue_of_openRefusal⟩
    simp [open_iff]

/-- The flag is on, and the subscription is refused. -/
def refusedTurn : Turn Unit :=
  ⟨new .default, ⟨⟨0⟩, ⟨.ok (some true), .error (.closed "can")⟩⟩⟩

/-- The next read of the flag fails, where a subscription would be granted. -/
def unreadTurn : Turn Unit :=
  ⟨refusedTurn.left, ⟨⟨600000000⟩, ⟨.error (.unreadable "ShowDebugInfo" .notText), .ok ()⟩⟩⟩

theorem subscribes_iff_unreadTurn :
    (unreadTurn.found.checkDue unreadTurn.input.now = true ∧
      unreadTurn.found.isActive = false) ∧
    (0 < unreadTurn.subscribes ↔ unreadTurn.value? = some true) ∧
      ((0 < unreadTurn.subscribes ↔ lastValue ([refusedTurn] ++ [unreadTurn]) = true) ↔
        ¬(unreadTurn.value? = none ∧ OpenRefusal [refusedTurn])) := by
  have cut : (new .default).turns [refusedTurn.input, unreadTurn.input] =
      [refusedTurn] ++ unreadTurn :: [] := rfl
  have due : unreadTurn.found.checkDue unreadTurn.input.now = true := by decide
  have idle : unreadTurn.found.isActive = false := by decide
  exact ⟨⟨due, idle⟩, subscribes_iff cut due idle⟩

/-- The last value read does not always decide whether a subscription is asked for. -/
theorem unread_flag_is_not_retried :
    ¬∀ (calls : List (Call Unit)) (before after : List (Turn Unit)) (t : Turn Unit),
      (new .default).turns calls = before ++ t :: after →
      t.found.checkDue t.input.now = true → t.found.isActive = false →
      (0 < t.subscribes ↔ lastValue (before ++ [t]) = true) := by
  intro retried
  have asks := retried [refusedTurn.input, unreadTurn.input] [refusedTurn] [] unreadTurn rfl
    (by decide) (by decide)
  have silent : ¬0 < unreadTurn.subscribes := by decide
  have on : lastValue ([refusedTurn] ++ [unreadTurn]) = true := by decide
  exact silent (asks.mpr on)

end Gate

end CanScope
