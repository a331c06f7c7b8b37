import CanScope.Capture.Basic
import CanScope.Proofs.Capture.Accepted
import CanScope.Proofs.Text.Lines
import Mathlib.Data.List.Forall2

/-!
# A capture as a whole

Each line of a text speaks for itself: it holds no record, or it holds one, or it is faulty. What the
text is read as follows from that and from where the lines stand. A faulty line spoils all of it, and the
first one is the one that is named. Without one there is a record for every line that is not a remark.
Lines are counted from one, the remarks among them too.

**Times.** `Relative` says how the records that are given stand to those that are written. Times are
counted from the first one that is written; a time before that is moved to it, so times may fall together
but never change places, and from the first time on no distance between two changes.

**Results.**
* `recordsFrom_eq_error_iff`, `recordsFrom_eq_ok_iff`: when some lines are refused, and what they hold.
* `relative_rebase`: what the change of times does.
* `parse_withReturns`: how the lines of a text end makes no difference.
* `line_exact`: these for every text.
-/
namespace CanScope.Capture

open CanScope.Text

/-- Line `number` of the text has the fault `e`. -/
def FaultAt (text : List Char) (number : Nat) (e : Error) : Prop :=
  ∃ line, (line, number) ∈ (lines text).zipIdx 1 ∧ parseLine number line = .error e

/-- `e` is the fault of the line that it names, and no line before that has one. -/
structure FirstFault (text : List Char) (e : Error) : Prop where
  fault : FaultAt text e.line e
  first : ∀ number e', FaultAt text number e' → e.line ≤ number

/-- A line that is blank, or a comment. -/
def Remark (line : List Char) : Prop :=
  Blanks line ∨ [';'] <+: trim line ∨ ['/', '/'] <+: trim line

instance (line : List Char) : Decidable (Remark line) := inferInstanceAs (Decidable (_ ∨ _ ∨ _))

/-- `records` are the records of the lines that are not remarks, one for each of them, in their order. -/
def Written (text : List Char) (records : List Record) : Prop :=
  List.Forall₂ (fun entry r => parseLine entry.2 entry.1 = .ok (some r))
    (((lines text).zipIdx 1).filter fun entry => ¬Remark entry.1) records

/-- The time of record `i`. -/
def timeAt? (records : List Record) (i : Nat) : Option Span := records[i]?.bind (·.at?)

/-- The first time there is. -/
def firstTime? (records : List Record) : Option Span := records.findSome? (·.at?)

/-- Some record with the time `s` in the one list has the time `t` in the other. -/
def Moves (written records : List Record) (s t : Span) : Prop :=
  ∃ i, timeAt? written i = some s ∧ timeAt? records i = some t

/-- `records` are the records as they are written, with times counted from the first. -/
structure Relative (written records : List Record) : Prop where
  frames : records.map (·.frame) = written.map (·.frame)
  untimed : ∀ i, timeAt? records i = none ↔ timeAt? written i = none
  /-- Subtraction stops at zero. -/
  times : ∀ start, firstTime? written = some start →
    ∀ i, timeAt? records i = (timeAt? written i).map (· - start)
  first : firstTime? records = (firstTime? written).map fun _ => .zero
  order : ∀ s s' t t', Moves written records s s' → Moves written records t t' → s ≤ t → s' ≤ t'
  distances : ∀ start, firstTime? written = some start →
    ∀ s s' t t', Moves written records s s' → Moves written records t t' → start ≤ s → start ≤ t →
      (t'.nanos : Int) - s'.nanos = t.nanos - s.nanos

/-! ## Line after line -/

theorem parseLine_congr {a b : List Char} (h : trim a = trim b) (number : Nat) :
    parseLine number a = parseLine number b := by
  simp only [parseLine, h]

theorem line_of_parseLine {number : Nat} {line : List Char} {e : Error}
    (h : parseLine number line = .error e) : e.line = number := by
  unfold parseLine at h
  dsimp only at h
  split at h
  · cases h
  · split at h <;> cases h
    rfl

theorem isRemark_trim_iff {line : List Char} : isRemark (trim line) = true ↔ Remark line := by
  rw [Remark, ← trim_eq_nil_iff]
  unfold isRemark
  split
  · next hnil => simp [hnil]
  · next hsemicolon => simp [hsemicolon]
  · next hslashes => simp [hslashes]
  · next hnil hsemicolon hslashes =>
    refine iff_of_false Bool.false_ne_true ?_
    rintro (h | ⟨more, h⟩ | ⟨more, h⟩)
    · exact hnil h
    · exact hsemicolon more h.symm
    · exact hslashes more h.symm

/-- Only remarks hold no record. -/
theorem parseLine_eq_none_iff {number : Nat} {line : List Char} :
    parseLine number line = .ok none ↔ Remark line := by
  rw [← isRemark_trim_iff]
  refine ⟨fun h => ?_, parseLine_of_remark⟩
  by_contra hremark
  rw [parseLine_of_not_remark (by simpa using hremark)] at h
  unfold numbered at h
  split at h <;> cases h

theorem recordsFrom_congr {ls ls' : List (List Char)} (h : ls.map trim = ls'.map trim) (n : Nat) :
    recordsFrom n ls = recordsFrom n ls' := by
  induction ls generalizing ls' n with
  | nil =>
    rw [List.map_nil, eq_comm, List.map_eq_nil_iff] at h
    rw [h]
  | cons line rest ih =>
    obtain ⟨line', rest', rfl, hline, hrest⟩ := List.map_eq_cons_iff.mp h.symm
    rw [recordsFrom, recordsFrom, parseLine_congr hline, ih hrest.symm]

theorem recordsFrom_cons_ok {n : Nat} {line : List Char} {found : Option Record}
    (h : parseLine n line = .ok found) (rest : List (List Char)) :
    recordsFrom n (line :: rest) = (recordsFrom (n + 1) rest).map (found.toList ++ ·) := by
  rw [recordsFrom, h]
  cases recordsFrom (n + 1) rest <;> rfl

theorem recordsFrom_cons_error {n : Nat} {line : List Char} {e : Error}
    (h : parseLine n line = .error e) (rest : List (List Char)) :
    recordsFrom n (line :: rest) = .error e := by
  rw [recordsFrom, h]
  rfl

theorem map_eq_ok_iff {ε α β : Type} {x : Except ε α} {f : α → β} {b : β} :
    x.map f = .ok b ↔ ∃ a, x = .ok a ∧ f a = b := by
  cases x <;> simp [Except.map]

theorem map_eq_error_iff {ε α β : Type} {x : Except ε α} {f : α → β} {e : ε} :
    x.map f = .error e ↔ x = .error e := by
  cases x <;> simp [Except.map]

/-- Some lines from number `n` on are refused for the first fault among them. -/
theorem recordsFrom_eq_error_iff {ls : List (List Char)} {n : Nat} {e : Error} :
    recordsFrom n ls = .error e ↔
      (∃ entry ∈ ls.zipIdx n, parseLine entry.2 entry.1 = .error e) ∧
        ∀ entry ∈ ls.zipIdx n, ∀ e', parseLine entry.2 entry.1 = .error e' → e.line ≤ entry.2 := by
  induction ls generalizing n with
  | nil => simp [recordsFrom]
  | cons line rest ih =>
    cases hline : parseLine n line with
    | ok found =>
      rw [recordsFrom_cons_ok hline, map_eq_error_iff, ih]
      simp [hline]
    | error e' =>
      rw [recordsFrom_cons_error hline]
      have hfirst : (line, n) ∈ (line :: rest).zipIdx n := by simp
      constructor
      · intro h
        cases h
        refine ⟨⟨(line, n), hfirst, hline⟩, fun entry hentry _ _ => ?_⟩
        rw [line_of_parseLine hline]
        exact List.le_snd_of_mem_zipIdx hentry
      · rintro ⟨⟨entry, hentry, herror⟩, hle⟩
        have hle := hle (line, n) hfirst e' hline
        rw [line_of_parseLine herror] at hle
        rcases List.mem_cons.mp hentry with rfl | hentry
        · cases hline.symm.trans herror
          rfl
        · have := List.le_snd_of_mem_zipIdx hentry
          omega

theorem recordsFrom_refused_iff {ls : List (List Char)} {n : Nat} :
    (∃ e, recordsFrom n ls = .error e) ↔
      ∃ entry ∈ ls.zipIdx n, ∃ e, parseLine entry.2 entry.1 = .error e := by
  induction ls generalizing n with
  | nil => simp [recordsFrom]
  | cons line rest ih =>
    cases hline : parseLine n line with
    | ok found => simp [recordsFrom_cons_ok hline, map_eq_error_iff, ih, hline]
    | error e => simp [recordsFrom_cons_error hline, hline]

/-- Otherwise there is a record for each of them that is not a remark. -/
theorem recordsFrom_eq_ok_iff {ls : List (List Char)} {n : Nat} {records : List Record} :
    recordsFrom n ls = .ok records ↔
      List.Forall₂ (fun entry r => parseLine entry.2 entry.1 = .ok (some r))
        ((ls.zipIdx n).filter fun entry => ¬Remark entry.1) records := by
  induction ls generalizing n records with
  | nil =>
    rw [recordsFrom, List.zipIdx_nil, List.filter_nil, List.forall₂_nil_left_iff, Except.ok.injEq, eq_comm]
  | cons line rest ih =>
    rw [List.zipIdx_cons, List.filter_cons]
    have hremark := @parseLine_eq_none_iff n line
    cases hline : parseLine n line with
    | error e =>
      rw [hline] at hremark
      simp [recordsFrom_cons_error hline, ← hremark, List.forall₂_cons_left_iff, hline]
    | ok found =>
      rw [hline] at hremark
      rw [recordsFrom_cons_ok hline, map_eq_ok_iff]
      cases found with
      | none => simp [← hremark, ih]
      | some r =>
        simp only [← hremark, reduceCtorEq, Except.ok.injEq, not_false_eq_true, decide_true, if_true,
          List.forall₂_cons_left_iff, hline, ih]
        grind

/-! ## Times -/

theorem timeAt?_of_firstTime? {records : List Record} (h : firstTime? records = none) (i : Nat) :
    timeAt? records i = none := by
  have hnone : ∀ r ∈ records, r.at? = none := List.findSome?_eq_none_iff.mp h
  cases hr : records[i]? with
  | none => simp [timeAt?, hr]
  | some r => simp [timeAt?, hr, hnone r (List.mem_of_getElem? hr)]

theorem rebase_of_firstTime? {records : List Record} (h : firstTime? records = none) :
    rebase records = records := by
  unfold firstTime? at h
  simp [rebase, h]

theorem rebase_of_start {records : List Record} {start : Span} (h : firstTime? records = some start) :
    rebase records = records.map fun r => { r with at? := r.at?.map (· - start) } := by
  unfold firstTime? at h
  simp [rebase, h]

theorem timeAt?_rebase {records : List Record} {start : Span} (h : firstTime? records = some start)
    (i : Nat) : timeAt? (rebase records) i = (timeAt? records i).map (· - start) := by
  rw [rebase_of_start h]
  cases hr : records[i]? with
  | none => simp [timeAt?, hr]
  | some r => simp [timeAt?, hr]

theorem frames_rebase (records : List Record) :
    (rebase records).map (·.frame) = records.map (·.frame) := by
  cases h : firstTime? records with
  | none => rw [rebase_of_firstTime? h]
  | some start =>
    rw [rebase_of_start h]
    simp

theorem firstTime?_rebase (records : List Record) :
    firstTime? (rebase records) = (firstTime? records).map fun _ => .zero := by
  cases h : firstTime? records with
  | none => rw [rebase_of_firstTime? h, h]; rfl
  | some start =>
    rw [rebase_of_start h]
    have hmap : firstTime? (records.map fun r => { r with at? := r.at?.map (· - start) }) =
        (firstTime? records).map (· - start) := by
      simp [firstTime?, List.findSome?_map, List.map_findSome?, Function.comp_def]
    have hzero : start - start = Span.zero := congrArg Span.mk (Nat.sub_self start.nanos)
    rw [hmap, h, Option.map_some, hzero, Option.map_some]

/-- A record whose time is moved has the first time taken off it. -/
theorem Moves.eq {written : List Record} {s s' : Span} (h : Moves written (rebase written) s s') :
    ∃ start, firstTime? written = some start ∧ s' = s - start := by
  obtain ⟨i, hs, hs'⟩ := h
  cases hstart : firstTime? written with
  | none =>
    rw [timeAt?_of_firstTime? hstart] at hs
    cases hs
  | some start =>
    rw [timeAt?_rebase hstart, hs] at hs'
    cases hs'
    exact ⟨start, rfl, rfl⟩

theorem relative_rebase (written : List Record) : Relative written (rebase written) where
  frames := frames_rebase written
  untimed i := by
    cases h : firstTime? written with
    | none => rw [rebase_of_firstTime? h]
    | some start => rw [timeAt?_rebase h, Option.map_eq_none_iff]
  times start h i := timeAt?_rebase h i
  first := firstTime?_rebase written
  order s s' t t' hs ht hle := by
    obtain ⟨start, hstart, rfl⟩ := hs.eq
    obtain ⟨start', hstart', rfl⟩ := ht.eq
    cases hstart.symm.trans hstart'
    simp at hle ⊢
    omega
  distances start h s s' t t' hs ht hle hle' := by
    obtain ⟨_, hstart, rfl⟩ := hs.eq
    cases h.symm.trans hstart
    obtain ⟨_, hstart', rfl⟩ := ht.eq
    cases h.symm.trans hstart'
    simp at hle hle' ⊢
    omega

/-! ## Texts -/

theorem firstFault_iff {text : List Char} {e : Error} : parse text = .error e ↔ FirstFault text e := by
  rw [parse, map_eq_error_iff, recordsFrom_eq_error_iff]
  constructor
  · rintro ⟨⟨⟨line, number⟩, hentry, herror⟩, hfirst⟩
    refine ⟨⟨line, ?_⟩, ?_⟩
    · rw [line_of_parseLine herror]
      exact ⟨hentry, herror⟩
    · intro number' e' ⟨line', hentry', herror'⟩
      exact hfirst _ hentry' e' herror'
  · rintro ⟨⟨line, hentry, herror⟩, hfirst⟩
    exact ⟨⟨_, hentry, herror⟩, fun entry hentry' e' herror' => hfirst _ e' ⟨_, hentry', herror'⟩⟩

theorem exists_error_iff {text : List Char} :
    (∃ e, parse text = .error e) ↔ ∃ number e, FaultAt text number e := by
  simp only [parse, map_eq_error_iff, recordsFrom_refused_iff]
  constructor
  · rintro ⟨⟨line, number⟩, hentry, e, herror⟩
    exact ⟨number, e, line, hentry, herror⟩
  · rintro ⟨number, e, line, hentry, herror⟩
    exact ⟨(line, number), hentry, e, herror⟩

theorem parse_withReturns (text : List Char) : parse (withReturns text) = parse text := by
  rw [parse, parse, recordsFrom_congr (trimmed_lines_withReturns text)]

theorem parse_eq_ok_iff {text : List Char} {records : List Record} :
    parse text = .ok records ↔ ∃ written, Written text written ∧ rebase written = records := by
  simp only [parse, map_eq_ok_iff, recordsFrom_eq_ok_iff, Written]

theorem exists_of_forall₂ {α β : Type} {R : α → β → Prop} {xs : List α} {ys : List β}
    (h : List.Forall₂ R xs ys) : ∀ y ∈ ys, ∃ x ∈ xs, R x y := by
  induction h with
  | nil => simp
  | cons hrel _ ih =>
    intro y hy
    rcases List.mem_cons.mp hy with rfl | hy
    · exact ⟨_, List.mem_cons_self, hrel⟩
    · obtain ⟨x, hx, hrel'⟩ := ih y hy
      exact ⟨x, List.mem_cons_of_mem _ hx, hrel'⟩

/-- Each frame of a capture is that of a line. -/
theorem exists_line_of_parse {text : List Char} {records : List Record} (h : parse text = .ok records) :
    ∀ r ∈ records, ∃ number line w, parseLine number line = .ok (some w) ∧ w.frame = r.frame := by
  obtain ⟨written, hwritten, rfl⟩ := parse_eq_ok_iff.mp h
  intro r hr
  have hframe : r.frame ∈ written.map (·.frame) := by
    rw [← frames_rebase]
    exact List.mem_map_of_mem hr
  obtain ⟨w, hw, hsame⟩ := List.mem_map.mp hframe
  obtain ⟨⟨line, number⟩, -, hline⟩ := exists_of_forall₂ hwritten w hw
  exact ⟨number, line, w, hline, hsame⟩

/-- **A text is read line by line.** It is refused exactly if a line is faulty, for the fault of the first
such line. Otherwise its records are those of the lines that are not remarks, with times counted from the
first. It makes no difference whether lines end in a return. -/
theorem line_exact (text : List Char) :
    (∀ e, parse text = .error e ↔ FirstFault text e) ∧
    ((∃ e, parse text = .error e) ↔ ∃ number e, FaultAt text number e) ∧
    ((∀ number e, ¬FaultAt text number e) →
      ∃ written records, parse text = .ok records ∧ Written text written ∧ Relative written records) ∧
    parse (withReturns text) = parse text := by
  refine ⟨fun e => firstFault_iff, exists_error_iff, fun hclean => ?_, parse_withReturns text⟩
  cases hparse : parse text with
  | error e =>
    obtain ⟨number, e', hfault⟩ := exists_error_iff.mp ⟨e, hparse⟩
    exact absurd hfault (hclean number e')
  | ok records =>
    obtain ⟨written, hwritten, rfl⟩ := parse_eq_ok_iff.mp hparse
    exact ⟨written, _, rfl, hwritten, relative_rebase written⟩

/-! A text with remarks, returns and a time before the first one, and a text that is refused. -/

theorem line_exact_mixed :
    let text := "; log\r\n\n1#\n(2) can1 2#AA\n(1) 3#\n(3.5) 4#".toList
    let refused := "1#\n; log\n1#1\n2#2".toList
    (parse text = .ok [⟨none, ⟨0, 1, []⟩⟩, ⟨some .zero, ⟨1, 2, [0xAA]⟩⟩, ⟨some .zero, ⟨0, 3, []⟩⟩,
        ⟨some ⟨1500000000⟩, ⟨0, 4, []⟩⟩] ∧
      ∃ written records, parse text = .ok records ∧ Written text written ∧ Relative written records) ∧
    FirstFault refused ⟨.badPayload, 3, "1"⟩ ∧
    parse (withReturns refused) = .error ⟨.badPayload, 3, "1"⟩ := by
  intro text refused
  have accepted : parse text = .ok [⟨none, ⟨0, 1, []⟩⟩, ⟨some .zero, ⟨1, 2, [0xAA]⟩⟩,
      ⟨some .zero, ⟨0, 3, []⟩⟩, ⟨some ⟨1500000000⟩, ⟨0, 4, []⟩⟩] := by decide +kernel
  have error : parse refused = .error ⟨.badPayload, 3, "1"⟩ := by rfl
  have clean : ∀ number e, ¬FaultAt text number e := by
    intro number e fault
    obtain ⟨e', error'⟩ := (line_exact text).2.1.mpr ⟨number, e, fault⟩
    rw [accepted] at error'
    cases error'
  exact ⟨⟨accepted, (line_exact text).2.2.1 clean⟩, ((line_exact refused).1 _).mp error,
    (line_exact refused).2.2.2.trans error⟩

end CanScope.Capture
