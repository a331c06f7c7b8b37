import CanScope.Ingest
import Mathlib.Data.List.Basic

/-!
# What a drain delivers

A drain that fails delivers nothing, and neither does one with a received frame that no controller
can have produced. `ingest_cache` shows that taking in a drain is applying what it delivers.

**The first fault.** All received frames of a drain are checked before one is applied. The fault that
is reported is that of the first frame that has one, in the order of the events and of the frames in
them (`Event.FirstFault`). Other frames that come with the drain are not looked at.

**Results.**
* `ingest_all_or_nothing`: whatever a drain gives, either all its received frames are applied and
  reported in order, or none is, and then the error says why.
-/
namespace CanScope

/-- An address of at most 29 bits and a payload of at most 64 bytes. -/
def CanFrame.WellFormed (f : CanFrame) : Prop :=
  f.address.toNat ≤ maxAddress ∧ f.data.length ≤ maxPayload

instance (f : CanFrame) : Decidable f.WellFormed :=
  inferInstanceAs (Decidable (_ ∧ _))

/-- The rule that a frame breaks; the payload does not matter where the address is too great. -/
inductive CanFrame.Breaks (f : CanFrame) : Fault → Prop where
  | address (high : maxAddress < f.address.toNat) : f.Breaks (.address f.address)
  | payload (low : f.address.toNat ≤ maxAddress) (long : maxPayload < f.data.length) :
    f.Breaks (.payload f.data.length f.address)

/-- The first received frame that breaks a rule has the fault `fault`. The frames before it in its
event are well-formed, and so are all received frames of the events before. -/
def Event.FirstFault (events : List Event) (fault : CanFrame.Fault) : Prop :=
  ∃ before e after good bad rest,
    events = before ++ e :: after ∧ e.content = .can (good ++ bad :: rest) ∧
      (∀ e' ∈ before, ∀ f ∈ e'.canFrames, f.WellFormed) ∧ (∀ f ∈ good, f.WellFormed) ∧
      bad.Breaks fault

/-- Whether the notice tells of a received frame. -/
def Notice.tellsFrame : Notice → Bool
  | .received _ => true
  | _ => false

/-- The frames that a drain at `now` delivers, in order. -/
def delivered (now : Instant) : Except BusError (List Event) → List Frame
  | .error _ => []
  | .ok events =>
    if ∀ e ∈ events, ∀ f ∈ e.canFrames, f.WellFormed then Event.stamped events now else []

theorem CanFrame.fault?_eq_none_iff (f : CanFrame) : f.fault? = none ↔ f.WellFormed := by
  unfold fault? WellFormed
  split
  · simp only [reduceCtorEq, false_iff]; omega
  · split
    · simp only [reduceCtorEq, false_iff]; omega
    · simp only [true_iff]; omega

theorem CanFrame.fault?_eq_some_iff (f : CanFrame) (fault : Fault) :
    f.fault? = some fault ↔ f.Breaks fault := by
  unfold fault?
  constructor
  · intro found
    split at found
    · rename_i high
      cases found
      exact .address high
    · rename_i low
      split at found
      · rename_i long
        cases found
        exact .payload (Nat.not_lt.1 low) long
      · cases found
  · rintro (high | ⟨low, long⟩)
    · rw [if_pos high]
    · rw [if_neg (Nat.not_lt.2 low), if_pos long]

theorem Event.canFrames_of_content {e : Event} {frames : List CanFrame}
    (h : e.content = .can frames) : e.canFrames = frames := by
  rw [canFrames, canFrames?, h]
  rfl

theorem Event.content_of_mem {e : Event} {f : CanFrame} (h : f ∈ e.canFrames) :
    e.content = .can e.canFrames := by
  obtain ⟨content, valid, time⟩ := e
  cases content with
  | can frames => rfl
  | sendcan frames => cases h
  | other name => cases h

theorem Event.fault?_cons (e : Event) (events : List Event) :
    fault? (e :: events) = (e.canFrames.findSome? CanFrame.fault?).or (fault? events) := by
  rw [fault?, List.flatMap_cons, List.findSome?_append]
  rfl

theorem Event.fault?_eq_none_iff (events : List Event) :
    fault? events = none ↔ ∀ e ∈ events, ∀ f ∈ e.canFrames, f.WellFormed := by
  rw [fault?, List.findSome?_eq_none_iff]
  simp only [List.mem_flatMap, CanFrame.fault?_eq_none_iff, forall_exists_index, and_imp]
  constructor
  · exact fun h e he f hf => h f e he hf
  · exact fun h f e he hf => h e he f hf

theorem Event.exists_fault {events : List Event}
    (h : ¬∀ e ∈ events, ∀ f ∈ e.canFrames, f.WellFormed) : ∃ fault, fault? events = some fault := by
  rw [← fault?_eq_none_iff, ← ne_eq, Option.ne_none_iff_exists'] at h
  exact h

/-- The fault that is found is the first one. -/
theorem Event.fault?_eq_some_iff (events : List Event) (fault : CanFrame.Fault) :
    fault? events = some fault ↔ FirstFault events fault := by
  constructor
  · intro found
    induction events with
    | nil => cases found
    | cons e events ih =>
      rw [fault?_cons, Option.or_eq_some_iff] at found
      rcases found with here | ⟨clean, later⟩
      · obtain ⟨good, bad, rest, frames, reason, none⟩ := List.findSome?_eq_some_iff.1 here
        have content : e.content = .can e.canFrames :=
          content_of_mem (f := bad) (by rw [frames]; simp)
        rw [frames] at content
        exact ⟨[], e, events, good, bad, rest, rfl, content, fun _ h => (List.not_mem_nil h).elim,
          fun f hf => (CanFrame.fault?_eq_none_iff f).1 (none f hf),
          (bad.fault?_eq_some_iff fault).1 reason⟩
      · obtain ⟨before, e', after, good, bad, rest, rfl, content, behind, fine, reason⟩ := ih later
        rw [List.findSome?_eq_none_iff] at clean
        refine ⟨e :: before, e', after, good, bad, rest, rfl, content, ?_, fine, reason⟩
        intro e'' h f hf
        rcases List.mem_cons.1 h with rfl | h
        · exact (CanFrame.fault?_eq_none_iff f).1 (clean f hf)
        · exact behind e'' h f hf
  · rintro ⟨before, e, after, good, bad, rest, rfl, content, behind, fine, reason⟩
    have none : good.findSome? CanFrame.fault? = none :=
      List.findSome?_eq_none_iff.2 fun f hf => (CanFrame.fault?_eq_none_iff f).2 (fine f hf)
    rw [fault?, List.flatMap_append, List.findSome?_append, ← fault?,
      (fault?_eq_none_iff before).2 behind, Option.none_or, ← fault?, fault?_cons,
      canFrames_of_content content, List.findSome?_append, none, Option.none_or,
      List.findSome?_cons, (bad.fault?_eq_some_iff fault).2 reason]
    rfl

theorem stamp_of_mem_delivered {now : Instant} {drained : Except BusError (List Event)} {f : Frame}
    (h : f ∈ delivered now drained) : f.stamp = now := by
  cases drained with
  | error e => cases h
  | ok events =>
    simp only [delivered] at h
    split at h
    · simp only [Event.stamped, List.mem_flatMap, List.mem_map] at h
      obtain ⟨_, _, _, _, rfl⟩ := h
      rfl
    · cases h

namespace Cache

theorem ingest_cache (c : Cache) (now : Instant) (drained : Except BusError (List Event)) :
    (c.ingest now drained).cache = c.applyAll (delivered now drained) := by
  cases drained with
  | error e => rfl
  | ok events =>
    simp only [ingest, delivered]
    cases found : Event.fault? events with
    | some fault =>
      have bad : ¬∀ e ∈ events, ∀ f ∈ e.canFrames, f.WellFormed := by
        rw [← Event.fault?_eq_none_iff, found]
        exact Option.some_ne_none fault
      rw [if_neg bad]
      rfl
    | none =>
      rw [if_pos ((Event.fault?_eq_none_iff events).1 found)]
      refine (c.applyReceived_fst now _).trans ?_
      rw [Event.stamped, List.map_flatMap]
      simp only [List.map_map, Function.comp_def]

/-! ## All or nothing -/

/-- What taking in `drained` at `now` should do to the cache `c` and report. -/
structure AllOrNothing (c : Cache) (now : Instant) (drained : Except BusError (List Event))
    (i : Ingested) : Prop where
  /-- A drain that fails is passed on. -/
  failed : ∀ e, drained = .error e → i.result = .error e ∧ i.cache = c ∧ i.notices = []
  refused : ∀ events, drained = .ok events → (∃ e ∈ events, ∃ f ∈ e.canFrames, ¬f.WellFormed) →
    ∃ fault, Event.FirstFault events fault ∧ i.result = .error (.malformed fault.message) ∧
      i.cache = c ∧ i.notices = []
  applied : ∀ events, drained = .ok events → (∀ e ∈ events, ∀ f ∈ e.canFrames, f.WellFormed) →
    i.result = .ok (events.flatMap Event.canFrames).length ∧
      i.cache = c.applyAll (Event.stamped events now) ∧
      i.notices.filter Notice.tellsFrame = (events.flatMap Event.canFrames).map .received
  /-- Events that carry no received frames could as well not be there. -/
  passed : ∀ events, drained = .ok events →
    i = c.ingest now (.ok (events.filter fun e => e.canFrames?.isSome))

theorem ingest_of_fault {events : List Event} {fault : CanFrame.Fault}
    (h : Event.fault? events = some fault) (c : Cache) (now : Instant) :
    c.ingest now (.ok events) = ⟨c, .error (.malformed fault.message), []⟩ := by
  simp only [ingest, h]

theorem result_of_wellFormed {events : List Event}
    (h : ∀ e ∈ events, ∀ f ∈ e.canFrames, f.WellFormed) (c : Cache) (now : Instant) :
    (c.ingest now (.ok events)).result = .ok (events.flatMap Event.canFrames).length := by
  simp only [ingest, (Event.fault?_eq_none_iff events).2 h, List.length_flatMap, List.length_map]

/-- The number of frames applied is that of the frames delivered. -/
theorem result_cases (c : Cache) (now : Instant) (drained : Except BusError (List Event)) :
    (c.ingest now drained).result = .ok (delivered now drained).length ∨
      delivered now drained = [] ∧ ∃ e, (c.ingest now drained).result = .error e := by
  cases drained with
  | error e => exact .inr ⟨rfl, e, rfl⟩
  | ok events =>
    by_cases fine : ∀ e ∈ events, ∀ f ∈ e.canFrames, f.WellFormed
    · left
      rw [result_of_wellFormed fine, delivered, if_pos fine, Event.stamped, List.length_flatMap,
        List.length_flatMap]
      simp only [List.length_map]
    · right
      obtain ⟨fault, found⟩ := Event.exists_fault fine
      rw [ingest_of_fault found, delivered, if_neg fine]
      exact ⟨rfl, _, rfl⟩

/-- Each frame is told of once and in order, whatever is evicted meanwhile. -/
theorem applyReceived_filter (c : Cache) (now : Instant) (received : List (CanFrame × Bool)) :
    (c.applyReceived now received).2.filter Notice.tellsFrame =
      received.map fun r => .received r.1 := by
  induction received generalizing c with
  | nil => rfl
  | cons r rest ih =>
    obtain ⟨f, valid⟩ := r
    have own : (c.applyNotices f (f.toFrame now valid)).filter Notice.tellsFrame = [.received f] := by
      unfold applyNotices
      cases c.evicts (f.toFrame now valid) <;> rfl
    rw [applyReceived, List.filter_append, own, ih, List.map_cons]
    rfl

theorem notices_of_wellFormed {events : List Event}
    (h : ∀ e ∈ events, ∀ f ∈ e.canFrames, f.WellFormed) (c : Cache) (now : Instant) :
    (c.ingest now (.ok events)).notices.filter Notice.tellsFrame =
      (events.flatMap Event.canFrames).map .received := by
  simp only [ingest, (Event.fault?_eq_none_iff events).2 h]
  rw [applyReceived_filter, List.map_flatMap, List.map_flatMap]
  simp only [List.map_map, Function.comp_def]

/-- What is made of the received frames of each event is not changed by events that have none. -/
theorem flatMap_filter_received {β : Type} (g : Event → List β)
    (nothing : ∀ e, e.canFrames = [] → g e = []) (events : List Event) :
    (events.filter fun e => e.canFrames?.isSome).flatMap g = events.flatMap g := by
  induction events with
  | nil => rfl
  | cons e rest ih =>
    cases kind : e.canFrames? with
    | some frames => rw [List.filter_cons_of_pos (by simp [kind]), List.flatMap_cons, ih,
        List.flatMap_cons]
    | none =>
      have bare : e.canFrames = [] := by rw [Event.canFrames, kind]; rfl
      rw [List.filter_cons_of_neg (by simp [kind]), ih, List.flatMap_cons, nothing e bare,
        List.nil_append]

theorem ingest_filter (c : Cache) (now : Instant) (events : List Event) :
    c.ingest now (.ok events) =
      c.ingest now (.ok (events.filter fun e => e.canFrames?.isSome)) := by
  have frames := flatMap_filter_received Event.canFrames (fun _ bare => bare) events
  have marked := flatMap_filter_received (fun e => e.canFrames.map (·, e.valid))
    (fun e bare => by rw [bare]; rfl) events
  simp only [ingest, Event.fault?, frames, marked]

/-- **All or nothing.** A drain that fails, or that holds a received frame no controller can have
produced, leaves the cache as it was and reports no frame, and its error is the drain's own or tells
of the first such frame. Any other drain has all its received frames applied in order, each reported
once, stamped with the moment and the validity of its event. Other events make no difference. -/
theorem ingest_all_or_nothing (c : Cache) (now : Instant)
    (drained : Except BusError (List Event)) :
    c.AllOrNothing now drained (c.ingest now drained) := by
  refine ⟨?_, ?_, ?_, ?_⟩
  · rintro e rfl
    exact ⟨rfl, rfl, rfl⟩
  · rintro events rfl ⟨e, he, f, hf, bad⟩
    obtain ⟨fault, reason⟩ := Event.exists_fault fun fine => bad (fine e he f hf)
    rw [ingest_of_fault reason]
    exact ⟨fault, (Event.fault?_eq_some_iff events fault).1 reason, rfl, rfl, rfl⟩
  · rintro events rfl fine
    refine ⟨result_of_wellFormed fine c now, ?_, notices_of_wellFormed fine c now⟩
    rw [ingest_cache, delivered, if_pos fine]
  · rintro events rfl
    exact ingest_filter c now events

/-- A frame behind a good one has an address of 30 bits; the frame to be sent may have one. -/
example : (new 1 (.ofSeconds 2)).ingest ⟨0⟩
    (.ok [⟨.sendcan [⟨0, 0x20000000, []⟩], true, 0⟩,
      .ofFrames [⟨0, 1, [7]⟩, ⟨0, 0x20000000, []⟩, ⟨0, 0x3FFFFFFF, []⟩]]) =
    ⟨new 1 (.ofSeconds 2), .error (.malformed "address 0x20000000 exceeds 29 bits"), []⟩ := by
  rfl

end Cache

end CanScope
