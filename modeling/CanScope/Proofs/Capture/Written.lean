import CanScope.Capture.Line
import CanScope.Proofs.Text.Digits
import CanScope.Proofs.Text.Fields
import Mathlib.Data.List.Basic

/-!
# Lines as they are written

What a writer of captures may put in a line for one frame, said apart from how lines are read:

* `WritesAddress`: the address in hexadecimal, in letters of either case, with any number of zeros in
  front.
* `WritesData`: two hexadecimal digits for each byte, with points anywhere among them.
* `WritesFrame`: address, `#` and data, or address, `##`, one digit of flags and data.
* `NamesBus`: a name that ends in the decimal number of the bus, and cannot be taken for a time or for
  the beginning of a remark.
* `WritesTime`: a field in parentheses that is accepted as a time.
* `WritesHeader`: the fields before the frame, which are a name or none, and a time or none on either
  side of it.
* `WritesLine`: all these fields, set apart and surrounded by blanks.

**Why times are not said apart.** A time is a decimal fraction that is rounded twice; which text stands
for which moment is what `time?` says. That it has no blank in it has to be shown, or else a time could
fall into two fields.

**Results.**
* `address?_of_writes`, `payload?_of_writes`, `bus?_of_names`: each part is read back.
* `parseLine_of_fields`: so is a line, if the fields before the frame are.
* `parseLine_of_written`: so is every line that is written for a record.
* `writesLine_plain`: there is such a line for every frame.
-/
namespace CanScope.Capture

open CanScope.Text

/-- `text` is the address in hexadecimal. -/
def WritesAddress (address : UInt32) (text : List Char) : Prop :=
  ∃ zeros, text.map Char.toUpper = List.replicate zeros '0' ++ hexDigits address.toNat

/-- `text` is the bytes in hexadecimal, with points anywhere. -/
def WritesData (data : List UInt8) (text : List Char) : Prop :=
  (text.filter (· != '.')).map Char.toUpper = data.flatMap hexByte

instance (data : List UInt8) (text : List Char) : Decidable (WritesData data text) :=
  inferInstanceAs (Decidable (_ = _))

/-- `body` is the field for a frame, in the classic form or in that of flexible data rate. -/
inductive WritesFrame (address : UInt32) (data : List UInt8) : List Char → Prop
  | classic {a d : List Char} : WritesAddress address a → WritesData data d →
      WritesFrame address data (a ++ '#' :: d)
  | flexible {a d : List Char} {flags : Char} : WritesAddress address a → isHexDigit flags = true →
      WritesData data d → WritesFrame address data (a ++ '#' :: '#' :: flags :: d)

/-- `name` is an interface's name that ends in the number of the bus. -/
structure NamesBus (bus : UInt8) (name : List Char) : Prop where
  solid : ∀ c ∈ name, isBlank c = false
  not_parenthesis : name.head? ≠ some '('
  not_semicolon : name.head? ≠ some ';'
  not_slashes : ¬['/', '/'] <+: name
  number : ∃ stem zeros, name = stem ++ (List.replicate zeros '0' ++ Nat.toDigits 10 bus.toNat) ∧
    ∀ c ∈ stem.getLast?, isDecimalDigit c = false

/-- `field` is the time `span`, in parentheses. -/
structure WritesTime (span : Span) (field : List Char) : Prop where
  parenthesis : field.head? = some '('
  accepted : time? field = .ok span

/-- `head` is the fields before a frame, and what they say of its time and its bus. -/
inductive WritesHeader : Option Span → UInt8 → List (List Char) → Prop
  | bare : WritesHeader none 0 []
  | named {bus : UInt8} {name : List Char} : NamesBus bus name → WritesHeader none bus [name]
  | timed {span : Span} {time : List Char} : WritesTime span time → WritesHeader (some span) 0 [time]
  | timeFirst {span : Span} {bus : UInt8} {time name : List Char} :
      WritesTime span time → NamesBus bus name → WritesHeader (some span) bus [time, name]
  | nameFirst {span : Span} {bus : UInt8} {time name : List Char} :
      NamesBus bus name → WritesTime span time → WritesHeader (some span) bus [name, time]

/-- `text` is a line for the record. -/
inductive WritesLine (r : Record) (text : List Char) : Prop
  | intro {head : List (List Char)} {body : List Char} :
      WritesHeader r.at? r.frame.bus head → WritesFrame r.frame.address r.frame.data body →
      Spread (head ++ [body]) text → WritesLine r text

/-! ## The parts are read back -/

theorem WritesAddress.natural? {address : UInt32} {text : List Char}
    (h : WritesAddress address text) : natural? 16 text = some address.toNat := by
  obtain ⟨zeros, htext⟩ := h
  rw [← natural?_map_toUpper, htext, natural?_hexDigits]

theorem address?_of_writes {address : UInt32} {text : List Char} (h : WritesAddress address text)
    (hmax : address.toNat ≤ CanFrame.maxAddress) : address? text = .ok address := by
  simp [address?, signless?_of_natural? h.natural?, hmax]

theorem bytes?_of_writes {data : List UInt8} {digits : List Char}
    (h : digits.map Char.toUpper = data.flatMap hexByte) : bytes? digits = some data := by
  induction data generalizing digits with
  | nil => simp_all [bytes?]
  | cons x data ih =>
    obtain ⟨pair, rest, rfl, hpair, hrest⟩ := List.map_eq_append_iff.mp h
    have hlen : pair.length = 2 := by rw [← List.length_map, hpair, length_hexByte]
    obtain ⟨a, b, rfl⟩ := List.length_eq_two.mp hlen
    have hx : natural? 16 [a, b] = some x.toNat := by
      rw [← natural?_map_toUpper, hpair, natural?_hexByte]
    simp [bytes?, byte?, signless?_of_natural? hx, ih hrest]

theorem isSome_digit?_of_flatMap {data : List UInt8} {digits : List Char}
    (h : digits.map Char.toUpper = data.flatMap hexByte) : ∀ c ∈ digits, (digit? 16 c).isSome := by
  intro c hc
  have hmem : c.toUpper ∈ data.flatMap hexByte := h ▸ List.mem_map_of_mem hc
  obtain ⟨x, -, hx⟩ := List.mem_flatMap.mp hmem
  have := isSome_digit?_of_natural? (natural?_hexByte x) _ hx
  rwa [digit?_toUpper] at this

/-- Every character of written data is a point or a digit. -/
theorem WritesData.mem {data : List UInt8} {text : List Char} (h : WritesData data text) :
    ∀ c ∈ text, c = '.' ∨ (digit? 16 c).isSome := by
  intro c hc
  by_cases hpoint : c = '.'
  · exact .inl hpoint
  · have hfilter : c ∈ text.filter (· != '.') := List.mem_filter.mpr ⟨hc, by simpa using hpoint⟩
    exact .inr (isSome_digit?_of_flatMap h c hfilter)

/-- In a field there are no spaces to pass over. -/
theorem filter_points {text : List Char} (h : ' ' ∉ text) :
    (text.filter fun c => c != '.' && c != ' ') = text.filter (· != '.') := by
  refine List.filter_congr fun c hc => ?_
  have hspace : c ≠ ' ' := fun hc' => h (hc' ▸ hc)
  simp [hspace]

theorem payload?_of_writes {data : List UInt8} {text : List Char} (h : WritesData data text)
    (hmax : data.length ≤ CanFrame.maxPayload) : payload? text = .ok data := by
  have hspace : ' ' ∉ text := fun hc => absurd (h.mem ' ' hc) (by decide)
  simp [payload?, filter_points hspace, bytes?_of_writes h, hmax]

theorem trailingDigits_append {stem digits : List Char}
    (hstem : ∀ c ∈ stem.getLast?, isDecimalDigit c = false)
    (hdigits : ∀ c ∈ digits, isDecimalDigit c = true) : trailingDigits (stem ++ digits) = digits := by
  have hstop : stem.reverse.takeWhile isDecimalDigit = [] := by
    cases h : stem.reverse with
    | nil => rfl
    | cons c rest =>
      have hc : c ∈ stem.getLast? := by simp [List.getLast?_eq_head?_reverse, h]
      exact List.takeWhile_cons_of_neg (by simp [hstem c hc])
  rw [trailingDigits, List.reverse_append, List.takeWhile_append_of_pos (by simpa using hdigits), hstop,
    List.append_nil, List.reverse_reverse]

theorem bus?_of_names {bus : UInt8} {name : List Char} (h : NamesBus bus name) :
    bus? name = .ok bus := by
  obtain ⟨stem, zeros, hname, hstem⟩ := h.number
  have hnumber := natural?_toDigits (by decide : 1 < 10) (by decide) zeros bus.toNat
  have hdigits : trailingDigits name = List.replicate zeros '0' ++ Nat.toDigits 10 bus.toNat := by
    rw [hname]
    exact trailingDigits_append hstem fun c hc =>
      isDecimalDigit_of_digit? (isSome_digit?_of_natural? hnumber c hc)
  simp [bus?, hdigits, hnumber, bus.toNat_lt]

/-! ## The frame -/

theorem splitFrame?_append {a : List Char} (ha : '#' ∉ a) (rest : List Char) :
    splitFrame? (a ++ '#' :: rest) = some (a, rest) := by
  have hpass : ∀ c ∈ a, (c != '#') = true := fun c hc => by
    simpa using fun h : c = '#' => ha (h ▸ hc)
  simp [splitFrame?, List.dropWhile_append_of_pos hpass, List.takeWhile_append_of_pos hpass]

theorem WritesAddress.ne_nil {address : UInt32} {text : List Char} (h : WritesAddress address text) :
    text ≠ [] :=
  ne_nil_of_natural? h.natural?

theorem WritesAddress.isSome_digit? {address : UInt32} {text : List Char}
    (h : WritesAddress address text) : ∀ c ∈ text, (digit? 16 c).isSome :=
  isSome_digit?_of_natural? h.natural?

theorem WritesAddress.not_mem {address : UInt32} {text : List Char} (h : WritesAddress address text) :
    '#' ∉ text :=
  fun hc => absurd (h.isSome_digit? '#' hc) (by decide)

theorem dataText_of_writes {data : List UInt8} {text : List Char} (h : WritesData data text) :
    dataText text = text := by
  unfold dataText
  split
  · exact absurd (h.mem '#' List.mem_cons_self) (by decide)
  · rfl

theorem dataText_flexible {flags : Char} (h : isHexDigit flags = true) (text : List Char) :
    dataText ('#' :: flags :: text) = text := by
  have hascii : flags.toNat < 128 := by
    have := toNat_of_isSome_digit? h
    omega
  simp [dataText, afterFlags, hascii]

theorem record?_of_writes (line : List Char) {address : UInt32} {data : List UInt8}
    {head : List (List Char)} {body : List Char} {time : Option Span} {bus : UInt8}
    (hhead : header? none 0 head = .ok (time, bus)) (hbody : WritesFrame address data body)
    (haddress : address.toNat ≤ CanFrame.maxAddress) (hdata : data.length ≤ CanFrame.maxPayload) :
    record? line head body = .ok ⟨time, ⟨bus, address, data⟩⟩ := by
  cases hbody with
  | classic ha hd =>
    simp [record?, hhead, splitFrame?_append ha.not_mem, address?_of_writes ha haddress,
      dataText_of_writes hd, payload?_of_writes hd hdata, bind, Except.bind, pure, Except.pure]
  | flexible ha hflags hd =>
    simp [record?, hhead, splitFrame?_append ha.not_mem, address?_of_writes ha haddress,
      dataText_flexible hflags, payload?_of_writes hd hdata, bind, Except.bind, pure, Except.pure]

/-! ## The fields before the frame -/

/-- A word that a line with a record may begin with. -/
structure Opens (w : List Char) : Prop extends Word w where
  not_remark : isRemark w = false

theorem isRemark_eq_false {cs : List Char} (hne : cs ≠ []) (hsemicolon : cs.head? ≠ some ';')
    (hslashes : ¬['/', '/'] <+: cs) : isRemark cs = false := by
  unfold isRemark
  split
  · contradiction
  · simp at hsemicolon
  · simp at hslashes
  · rfl

/-- What follows does not turn a text into a remark, if it does not begin with the second slash. -/
theorem isRemark_append {w more : List Char} (hne : w ≠ []) (hslash : more.head? ≠ some '/') :
    isRemark (w ++ more) = isRemark w := by
  obtain ⟨c, w, rfl⟩ := List.exists_cons_of_ne_nil hne
  cases w with
  | cons d w => unfold isRemark; grind
  | nil =>
    cases more with
    | nil => rfl
    | cons d more => unfold isRemark; grind

theorem NamesBus.opens {bus : UInt8} {name : List Char} (h : NamesBus bus name) : Opens name where
  ne_nil := by
    obtain ⟨stem, zeros, rfl, -⟩ := h.number
    simp
  solid := h.solid
  not_remark := by
    refine isRemark_eq_false ?_ h.not_semicolon h.not_slashes
    obtain ⟨stem, zeros, rfl, -⟩ := h.number
    simp

/-- Hexadecimal digits may begin a line, and so may plus signs. -/
theorem opens_of_mem {text : List Char} (hne : text ≠ [])
    (h : ∀ c ∈ text, c = '+' ∨ (digit? 16 c).isSome) : Opens text where
  ne_nil := hne
  solid c hc := by
    rcases h c hc with rfl | hdigit
    · decide
    · exact not_isBlank_of_digit? hdigit
  not_remark := by
    refine isRemark_eq_false hne (fun hhead => ?_) (fun hslashes => ?_)
    · exact absurd (h ';' (List.mem_of_head? hhead)) (by decide)
    · exact absurd (h '/' (hslashes.subset List.mem_cons_self)) (by decide)

theorem WritesAddress.opens {address : UInt32} {text : List Char} (h : WritesAddress address text) :
    Opens text :=
  opens_of_mem h.ne_nil fun c hc => .inr (h.isSome_digit? c hc)

theorem WritesData.solid {data : List UInt8} {text : List Char} (h : WritesData data text) :
    ∀ c ∈ text, isBlank c = false := by
  intro c hc
  rcases h.mem c hc with rfl | hdigit
  · decide
  · exact not_isBlank_of_digit? hdigit

/-- A word may go on in any way without blanks, if it does not begin a remark by that. -/
theorem Opens.append {w more : List Char} (h : Opens w) (hmore : ∀ c ∈ more, isBlank c = false)
    (hslash : more.head? ≠ some '/') : Opens (w ++ more) where
  ne_nil := by simp [h.ne_nil]
  solid := List.forall_mem_append.mpr ⟨h.solid, hmore⟩
  not_remark := by rw [isRemark_append h.ne_nil hslash, h.not_remark]

theorem WritesFrame.opens {address : UInt32} {data : List UInt8} {body : List Char}
    (h : WritesFrame address data body) : Opens body := by
  cases h with
  | classic ha hd =>
    exact ha.opens.append (List.forall_mem_cons.mpr ⟨by decide, hd.solid⟩) (by simp)
  | flexible ha hflags hd =>
    refine ha.opens.append ?_ (by simp)
    refine List.forall_mem_cons.mpr ⟨by decide, List.forall_mem_cons.mpr ⟨by decide, ?_⟩⟩
    exact List.forall_mem_cons.mpr ⟨not_isBlank_of_digit? hflags, hd.solid⟩

theorem mem_timeBody {field : List Char} {c : Char} (hc : c ∈ field) :
    c = '(' ∨ c = ')' ∨ c ∈ timeBody field := by
  rw [← List.takeWhile_append_dropWhile (p := (· == '(')) (l := field), List.mem_append] at hc
  rcases hc with hc | hc
  · exact .inl (by simpa using List.mem_takeWhile_imp hc)
  · rw [← List.mem_reverse, ← List.takeWhile_append_dropWhile (p := (· == ')')) (l := List.reverse _),
      List.mem_append] at hc
    rcases hc with hc | hc
    · exact .inr (.inl (by simpa using List.mem_takeWhile_imp hc))
    · exact .inr (.inr (List.mem_reverse.mpr hc))

/-- A time that is accepted has no blank in it, so it is a single field. -/
theorem WritesTime.opens {span : Span} {field : List Char} (h : WritesTime span field) :
    Opens field where
  ne_nil := by
    rintro rfl
    simpa using h.parenthesis
  solid c hc := by
    rcases mem_timeBody hc with rfl | rfl | hc
    · decide
    · decide
    · have haccepted := h.accepted
      rw [time?] at haccepted
      split at haccepted
      · next hread =>
        obtain ⟨d, hd, -⟩ := Option.bind_eq_some_iff.mp hread
        exact Number.Decimal.not_isBlank_of_read? hd c hc
      · contradiction
  not_remark := by
    obtain ⟨field, rfl⟩ := List.head?_eq_some_iff.mp h.parenthesis
    rfl

theorem NamesBus.header?_cons {bus : UInt8} {name : List Char} (h : NamesBus bus name)
    (time : Option Span) (before : UInt8) (head : List (List Char)) :
    header? time before (name :: head) = header? time bus head := by
  simp [header?, h.not_parenthesis, bus?_of_names h, bind, Except.bind]

theorem WritesTime.header?_cons {span : Span} {field : List Char} (h : WritesTime span field)
    (before : Option Span) (bus : UInt8) (head : List (List Char)) :
    header? before bus (field :: head) = header? (some span) bus head := by
  simp [header?, h.parenthesis, h.accepted, bind, Except.bind]

theorem header?_of_writes {time : Option Span} {bus : UInt8} {head : List (List Char)}
    (h : WritesHeader time bus head) : header? none 0 head = .ok (time, bus) := by
  cases h with
  | bare => rfl
  | named hname => rw [hname.header?_cons, header?]
  | timed htime => rw [htime.header?_cons, header?]
  | timeFirst htime hname => rw [htime.header?_cons, hname.header?_cons, header?]
  | nameFirst hname htime => rw [hname.header?_cons, htime.header?_cons, header?]

theorem WritesHeader.opens {time : Option Span} {bus : UInt8} {head : List (List Char)}
    (h : WritesHeader time bus head) : ∀ w ∈ head, Opens w := by
  cases h with
  | bare => simp
  | named hname => simpa using hname.opens
  | timed htime => simpa using htime.opens
  | timeFirst htime hname => simpa using ⟨htime.opens, hname.opens⟩
  | nameFirst hname htime => simpa using ⟨hname.opens, htime.opens⟩

/-! ## The line -/

/-- What comes behind the first word does not turn it into a remark. -/
theorem isRemark_of_joined {w : List Char} {words : List (List Char)} {line : List Char}
    (h : Joined (w :: words) line) (hw : Opens w) : isRemark line = false := by
  obtain ⟨rest, rfl, hrest⟩ := h.exists_rest
  have hslash : rest.head? ≠ some '/' := fun h => absurd (hrest '/' h) (by decide)
  rw [isRemark_append hw.ne_nil hslash, hw.not_remark]

/-- A line whose words may all begin a line is read as its fields are. -/
theorem parseLine_of_fields {words : List (List Char)} {text : List Char}
    (hspread : Spread words text) (hwords : ∀ w ∈ words, Opens w) {r : Record}
    (hrecord : record? (trim text) words.dropLast (words.getLast?.getD []) = .ok r) (number : Nat) :
    parseLine number text = .ok (some r) := by
  have hjoined : Joined words (trim text) := hspread.joined_trim fun w hw => (hwords w hw).toWord
  have hremark : isRemark (trim text) = false := by
    cases words with
    | nil => nomatch hjoined
    | cons w words => exact isRemark_of_joined hjoined (hwords w List.mem_cons_self)
  have hfields : fields (trim text) = words :=
    fields_of_joined hjoined fun w hw => (hwords w hw).toWord
  simp [parseLine, hremark, hfields, hrecord]

/-- The line for a frame with nothing in it that could be left out or written otherwise. -/
def plainLine (f : CanFrame) : List Char :=
  ("can".toList ++ Nat.toDigits 10 f.bus.toNat) ++ [' '] ++
    (hexDigits f.address.toNat ++ '#' :: f.data.flatMap hexByte)

theorem namesBus_plain (bus : UInt8) : NamesBus bus ("can".toList ++ Nat.toDigits 10 bus.toNat) where
  solid := by
    have hnumber := natural?_toDigits (by decide : 1 < 10) (by decide) 0 bus.toNat
    refine List.forall_mem_append.mpr ⟨not_isBlank_of_any (by decide), fun c hc => ?_⟩
    exact not_isBlank_of_digit? (isSome_digit?_of_natural? hnumber c hc)
  not_parenthesis := by simp
  not_semicolon := by simp
  not_slashes := by simp
  number := ⟨"can".toList, 0, rfl, by simp [isDecimalDigit]⟩

theorem writesData_plain (data : List UInt8) : WritesData data (data.flatMap hexByte) := by
  have hpoint : ∀ c ∈ data.flatMap hexByte, (c != '.') = true := by
    intro c hc
    obtain ⟨b, -, hb⟩ := List.mem_flatMap.mp hc
    rw [bne_iff_ne]
    rintro rfl
    exact absurd (isSome_digit?_of_natural? (natural?_hexByte b) '.' hb) (by decide)
  rw [WritesData, List.filter_eq_self.mpr hpoint, List.map_flatMap]
  simp only [map_toUpper_hexByte]

theorem writesLine_plain (f : CanFrame) : WritesLine ⟨none, f⟩ (plainLine f) := by
  have address : WritesAddress f.address (hexDigits f.address.toNat) :=
    ⟨0, map_toUpper_hexDigits f.address.toNat⟩
  refine ⟨.named (namesBus_plain f.bus), .classic address (writesData_plain f.data), ?_⟩
  exact ⟨[], plainLine f, [], by decide, .before _ [' '] (by decide) (by decide) (.last _),
    by decide, by simp⟩

/-- **Round trip.** What is written for a record is read as that record, whatever the writer chose. -/
theorem parseLine_of_written {r : Record} {text : List Char} (h : WritesLine r text)
    (haddress : r.frame.address.toNat ≤ CanFrame.maxAddress)
    (hdata : r.frame.data.length ≤ CanFrame.maxPayload) (number : Nat) :
    parseLine number text = .ok (some r) := by
  obtain ⟨hhead, hbody, hspread⟩ := h
  refine parseLine_of_fields hspread ?_ ?_ number
  · exact List.forall_mem_append.mpr ⟨hhead.opens, by simpa using hbody.opens⟩
  · have hrecord := record?_of_writes (trim text) (header?_of_writes hhead) hbody haddress hdata
    simpa using hrecord

/-- The round trip of a time, a name that begins with a slash, and a frame with flexible data rate: with
blanks of many kinds, zeros in front of both numbers, points in the data, and digits in either case. -/
theorem parseLine_of_written_mixed :
    let r : Record := ⟨some ⟨1500000000⟩, ⟨7, 0x1FFFFFFF, [0xAB, 0x0C]⟩⟩
    let text := "\u3000(1.5)\t/can007\u00a0 01fFfFfFf##e.aB0.C.\u2028".toList
    WritesLine r text ∧ r.frame.address.toNat ≤ CanFrame.maxAddress ∧
      r.frame.data.length ≤ CanFrame.maxPayload ∧ parseLine 3 text = .ok (some r) := by
  intro r text
  have time : WritesTime ⟨1500000000⟩ "(1.5)".toList := ⟨by decide, by decide +kernel⟩
  have name : NamesBus 7 "/can007".toList :=
    ⟨not_isBlank_of_any (by decide), by decide, by decide, by decide, "/can".toList, 2, by decide,
      by simp [isDecimalDigit]⟩
  have body : WritesFrame 0x1FFFFFFF [0xAB, 0x0C]
      ("01fFfFfFf".toList ++ '#' :: '#' :: 'e' :: ".aB0.C.".toList) :=
    .flexible ⟨1, by decide⟩ (by decide) (by decide)
  have spread : Spread ["(1.5)".toList, "/can007".toList,
      "01fFfFfFf".toList ++ '#' :: '#' :: 'e' :: ".aB0.C.".toList] text :=
    ⟨['\u3000'], _, ['\u2028'], by decide,
      .before _ ['\t'] (by decide) (by decide)
        (.before _ ['\u00a0', ' '] (by decide) (by decide) (.last _)), by decide, by decide⟩
  have written : WritesLine r text := ⟨.timeFirst time name, body, spread⟩
  exact ⟨written, by decide, by decide, parseLine_of_written written (by decide) (by decide) 3⟩

end CanScope.Capture
