import CanScope.Proofs.Cache.Ingest
import CanScope.Proofs.Capture.Written

/-!
# Lines that are accepted

What a line with a record looks like, said apart from how lines are read. `Layout` cuts it into the
fields before the frame, the address and what follows the first `#`, and `Taken` says which record these
are taken for. `parseLine_eq_some_iff` shows that nothing else is accepted.

**What this is meant to be.** Hexadecimal digits and nothing else: at least one of them for the address,
two for each byte of the data, and points among these.

**Where it fails.** Wherever a number is read a plus sign may stand in front, so `+1#+2` is accepted. In
the data such a sign is as good as a zero. And what follows flags that are not ASCII is not looked at.

**Results.**
* `address?_eq_ok_iff`, `payload?_eq_ok_iff`: each part is accepted exactly as it is written, but for plus
  signs.
* `parseLine_eq_some_iff`: so is a line.
* `accepted_hex_iff`: an accepted line is hexadecimal exactly if it is plain; one that holds any other
  character is rejected exactly if it is not taken for a record, and always if it is plain.
* `signs_accepted`: a line with plus signs that is accepted.
-/
namespace CanScope.Capture

open CanScope.Text

/-- The text of a line that holds a record: the fields `head`, and then `address#rest`. -/
structure Layout (text : List Char) (head : List (List Char)) (address rest : List Char) : Prop where
  not_remark : isRemark (trim text) = false
  fields_eq : fields (trim text) = head ++ [address ++ '#' :: rest]
  /-- The address ends at the first `#`. -/
  not_mem : '#' ∉ address

/-- What a line says of its record, with the number of the line if that is a fault. -/
def numbered (number : Nat) : Except Faulty Record → Except Error (Option Record)
  | .ok r => .ok (some r)
  | .error (fault, culprit) => .error ⟨fault, number, String.ofList culprit⟩

/-- Each pair of characters with a zero in place of a plus sign in front. -/
def zeroSigns : List Char → List Char
  | a :: b :: rest => (if a = '+' then '0' else a) :: b :: zeroSigns rest
  | cs => cs

/-- `text` is taken for the address: hexadecimal, and perhaps a plus sign in front. -/
def AddressTaken (address : UInt32) (text : List Char) : Prop := WritesAddress address (dropSign text)

/-- `text` is taken for the bytes: pairs of hexadecimal digits, of which the first may be a plus sign, and
points anywhere. -/
def DataTaken (data : List UInt8) (text : List Char) : Prop :=
  (zeroSigns (text.filter (· != '.'))).map Char.toUpper = data.flatMap hexByte

/-- The fields `head` and `address#rest` are taken for the record. -/
structure Taken (head : List (List Char)) (address rest : List Char) (r : Record) : Prop where
  header : header? none 0 head = .ok (r.at?, r.frame.bus)
  address : AddressTaken r.frame.address address
  data : DataTaken r.frame.data (dataText rest)
  wellFormed : r.frame.WellFormed

/-- The text of the data as it is meant: what follows the flags, or `#` where there are none. -/
def behindFlags : List Char → List Char
  | '#' :: rest => rest.tail
  | cs => cs

/-- The address is hexadecimal digits, and the data such digits and points. -/
structure IsHex (address rest : List Char) : Prop where
  address : ∀ c ∈ address, isHexDigit c = true
  data : ∀ c ∈ behindFlags rest, c = '.' ∨ isHexDigit c = true

/-- There is no sign that is taken for a digit, and nothing that is not looked at. -/
structure Plain (address rest : List Char) : Prop where
  address : '+' ∉ address
  data : '+' ∉ behindFlags rest
  flags : ∀ flags more, rest = '#' :: flags :: more → flags.toNat < 128 ∨ ∀ c ∈ more, c = '.'

/-- The line is rejected, and for its frame if the fields `head` before that are in order. -/
def Rejected (number : Nat) (text : List Char) (head : List (List Char)) : Prop :=
  ∃ e, parseLine number text = .error e ∧
    ((∃ found, header? none 0 head = .ok found) → e.fault = .badAddress ∨ e.fault = .badPayload)

/-! ## The address -/

theorem writesAddress_iff {address : UInt32} {text : List Char} :
    WritesAddress address text ↔ natural? 16 text = some address.toNat :=
  natural?_sixteen_iff.symm

theorem address?_eq_ok_iff {address : UInt32} {text : List Char} :
    address? text = .ok address ↔
      address.toNat ≤ CanFrame.maxAddress ∧ AddressTaken address text := by
  rw [AddressTaken, writesAddress_iff, ← signless?_eq, address?]
  constructor
  · intro h
    split at h
    · next n hn =>
      split at h
      · next hmax =>
        cases h
        have hnat : (UInt32.ofNat n).toNat = n := by
          rw [UInt32.toNat_ofNat']
          unfold CanFrame.maxAddress at hmax
          omega
        rw [hnat]
        exact ⟨hmax, hn⟩
      · cases h
    · cases h
  · rintro ⟨hmax, hn⟩
    simp [hn, hmax]

theorem address?_eq_error {text : List Char} {f : Faulty} (h : address? text = .error f) :
    f = (.badAddress, text) := by
  unfold address? at h
  split at h
  · split at h <;> cases h
    rfl
  · cases h
    rfl

/-- An address is hexadecimal if it is taken without a sign. -/
theorem AddressTaken.writes_iff {address : UInt32} {text : List Char} (h : AddressTaken address text) :
    WritesAddress address text ↔ '+' ∉ text := by
  refine ⟨fun hwrites hplus => ?_, fun hplus => ?_⟩
  · exact absurd (hwrites.isSome_digit? '+' hplus) (by decide)
  · have hhead : text.head? ≠ some '+' := fun hc => hplus (List.mem_of_head? hc)
    rwa [AddressTaken, dropSign_of_head? hhead] at h

/-! ## The data -/

theorem zeroSigns_of_not_mem {cs : List Char} (h : '+' ∉ cs) : zeroSigns cs = cs := by
  fun_induction zeroSigns cs with
  | case1 a b rest ih =>
    have hsign : a ≠ '+' := fun hplus => h (hplus ▸ List.mem_cons_self)
    have hrest : '+' ∉ rest := fun hplus => h (List.mem_cons_of_mem _ (List.mem_cons_of_mem _ hplus))
    rw [if_neg hsign, ih hrest]
  | case2 => rfl

/-- In front of a digit a plus sign is as good as a zero. -/
theorem byte?_zero (b : Char) : byte? '0' b = byte? '+' b := rfl

theorem bytes?_zeroSigns (cs : List Char) : bytes? (zeroSigns cs) = bytes? cs := by
  fun_induction zeroSigns cs with
  | case1 a b rest ih =>
    rw [bytes?, bytes?, ih]
    split
    · next hplus => rw [hplus, byte?_zero]
    · rfl
  | case2 => rfl

theorem hexByte_of_byte? {a b : Char} {x : UInt8} (h : byte? a b = some x) :
    [if a = '+' then '0' else a, b].map Char.toUpper = hexByte x := by
  have hsame : byte? (if a = '+' then '0' else a) b = byte? a b := by
    split
    · next hplus => rw [hplus, byte?_zero]
    · rfl
  have hsign : (if a = '+' then '0' else a) ≠ '+' := by split <;> simp_all
  obtain ⟨n, hn, rfl⟩ := Option.map_eq_some_iff.mp (hsame.trans h)
  refine hexByte_of_natural? ?_
  rwa [signless?_eq, dropSign_of_head? (by simpa using hsign)] at hn

theorem bytes?_eq_some_iff {cs : List Char} {data : List UInt8} :
    bytes? cs = some data ↔ (zeroSigns cs).map Char.toUpper = data.flatMap hexByte := by
  constructor
  · intro h
    fun_induction bytes? cs generalizing data with
    | case1 =>
      cases h
      rfl
    | case2 => cases h
    | case3 a b rest ih =>
      obtain ⟨x, hx, hrest⟩ := Option.bind_eq_some_iff.mp h
      obtain ⟨data, hdata, rfl⟩ := Option.map_eq_some_iff.mp hrest
      rw [List.flatMap_cons, ← hexByte_of_byte? hx, ← ih hdata]
      rfl
  · intro h
    rw [← bytes?_zeroSigns, bytes?_of_writes h]

theorem payload?_eq_ok_iff {data : List UInt8} {text : List Char} (hspace : ' ' ∉ text) :
    payload? text = .ok data ↔ data.length ≤ CanFrame.maxPayload ∧ DataTaken data text := by
  rw [DataTaken, ← bytes?_eq_some_iff, payload?, filter_points hspace]
  constructor
  · intro h
    split at h
    · next bytes hbytes =>
      split at h
      · next hmax =>
        cases h
        exact ⟨hmax, hbytes⟩
      · cases h
    · cases h
  · rintro ⟨hmax, hbytes⟩
    simp [hbytes, hmax]

theorem payload?_eq_error {text : List Char} {f : Faulty} (h : payload? text = .error f) :
    f = (.badPayload, text) := by
  unfold payload? at h
  split at h
  · split at h <;> cases h
    rfl
  · cases h
    rfl

/-- Data is hexadecimal if it is taken without a sign. -/
theorem DataTaken.writes_iff {data : List UInt8} {text : List Char} (h : DataTaken data text) :
    WritesData data text ↔ '+' ∉ text := by
  refine ⟨fun hwrites hplus => ?_, fun hplus => ?_⟩
  · exact absurd (hwrites.mem '+' hplus) (by decide)
  · rwa [DataTaken, zeroSigns_of_not_mem (fun hc => hplus (List.mem_filter.mp hc).1)] at h

/-! ## The line -/

theorem bind_eq_ok_iff {ε α β : Type} {x : Except ε α} {f : α → Except ε β} {b : β} :
    (x >>= f) = .ok b ↔ ∃ a, x = .ok a ∧ f a = .ok b := by
  cases x <;> simp [bind, Except.bind]

theorem splitFrame?_eq_some_iff {body a rest : List Char} :
    splitFrame? body = some (a, rest) ↔ body = a ++ '#' :: rest ∧ '#' ∉ a := by
  refine ⟨fun h => ?_, fun ⟨hbody, ha⟩ => by rw [hbody, splitFrame?_append ha]⟩
  unfold splitFrame? at h
  split at h
  · cases h
  · next c more hdrop =>
    cases h
    have hfirst := List.head?_dropWhile_not (· != '#') body
    have hc : c = '#' := by simpa [hdrop] using hfirst
    constructor
    · subst hc
      rw [← hdrop, List.takeWhile_append_dropWhile]
    · exact fun hmem => by simpa using List.mem_takeWhile_imp hmem

theorem record?_eq_ok_iff {line body : List Char} {head : List (List Char)} {r : Record} :
    record? line head body = .ok r ↔ ∃ a rest, (body = a ++ '#' :: rest ∧ '#' ∉ a) ∧
      header? none 0 head = .ok (r.at?, r.frame.bus) ∧ address? a = .ok r.frame.address ∧
      payload? (dataText rest) = .ok r.frame.data := by
  constructor
  · intro h
    obtain ⟨⟨time, bus⟩, hhead, h⟩ := bind_eq_ok_iff.mp h
    dsimp only at h
    split at h
    · cases h
    · next a rest hsplit =>
      obtain ⟨address, haddress, h⟩ := bind_eq_ok_iff.mp h
      obtain ⟨data, hdata, h⟩ := bind_eq_ok_iff.mp h
      cases h
      exact ⟨a, rest, splitFrame?_eq_some_iff.mp hsplit, hhead, haddress, hdata⟩
  · rintro ⟨a, rest, hbody, hhead, haddress, hdata⟩
    simp [record?, hhead, splitFrame?_eq_some_iff.mpr hbody, haddress, hdata, bind, Except.bind, pure,
      Except.pure]

variable {text a rest : List Char} {head : List (List Char)} {number : Nat} {r : Record}

theorem numbered_eq_ok_iff {x : Except Faulty Record} :
    numbered number x = .ok (some r) ↔ x = .ok r := by
  cases x <;> simp [numbered]

theorem parseLine_of_remark (h : isRemark (trim text) = true) : parseLine number text = .ok none := by
  simp [parseLine, h]

/-- Any other line gives the record of its fields, or the fault in them. -/
theorem parseLine_of_not_remark (h : isRemark (trim text) = false) :
    parseLine number text = numbered number
      (record? (trim text) (fields (trim text)).dropLast ((fields (trim text)).getLast?.getD [])) := by
  simp only [parseLine, h, Bool.false_eq_true, if_false]
  rfl

theorem Layout.parseLine_eq (h : Layout text head a rest) (number : Nat) :
    parseLine number text = numbered number (record? (trim text) head (a ++ '#' :: rest)) := by
  rw [parseLine_of_not_remark h.not_remark, h.fields_eq, List.dropLast_concat, List.getLast?_concat,
    Option.getD_some]

theorem mem_of_mem_dataText {c : Char} (h : c ∈ dataText rest) : c ∈ rest := by
  unfold dataText afterFlags at h
  grind

/-- There is no blank in the field of the frame. -/
theorem Layout.solid (h : Layout text head a rest) : ∀ c ∈ a ++ '#' :: rest, isBlank c = false := by
  refine (@word_of_mem_fields _ (trim text) ?_).solid
  rw [h.fields_eq]
  simp

theorem Layout.not_space (h : Layout text head a rest) : ' ' ∉ dataText rest := by
  intro hc
  have := h.solid ' ' (by simp [mem_of_mem_dataText hc])
  exact absurd this (by decide)

/-- A line is accepted for just what it is taken for. -/
theorem Layout.accepted_iff (h : Layout text head a rest) :
    parseLine number text = .ok (some r) ↔ Taken head a rest r := by
  have hrecord : parseLine number text = .ok (some r) ↔
      record? (trim text) head (a ++ '#' :: rest) = .ok r := by
    rw [h.parseLine_eq, numbered_eq_ok_iff]
  rw [hrecord, record?_eq_ok_iff]
  constructor
  · rintro ⟨a', rest', hbody, hhead, haddress, hdata⟩
    have hsame := splitFrame?_eq_some_iff.mpr hbody
    rw [splitFrame?_append h.not_mem] at hsame
    cases hsame
    rw [address?_eq_ok_iff] at haddress
    rw [payload?_eq_ok_iff h.not_space] at hdata
    exact ⟨hhead, haddress.2, hdata.2, haddress.1, hdata.1⟩
  · rintro ⟨hhead, haddress, hdata, hwell⟩
    exact ⟨a, rest, ⟨rfl, h.not_mem⟩, hhead, address?_eq_ok_iff.mpr ⟨hwell.1, haddress⟩,
      (payload?_eq_ok_iff h.not_space).mpr ⟨hwell.2, hdata⟩⟩

/-- **What is accepted.** A line is read as a record exactly if it is laid out so and taken for it. -/
theorem parseLine_eq_some_iff :
    parseLine number text = .ok (some r) ↔
      ∃ head a rest, Layout text head a rest ∧ Taken head a rest r := by
  refine ⟨fun h => ?_, fun ⟨head, a, rest, hlayout, htaken⟩ => hlayout.accepted_iff.mpr htaken⟩
  suffices hlayout : ∃ head a rest, Layout text head a rest by
    obtain ⟨head, a, rest, hlayout⟩ := hlayout
    exact ⟨head, a, rest, hlayout, hlayout.accepted_iff.mp h⟩
  have hremark : isRemark (trim text) = false := by
    by_contra hremark
    rw [parseLine_of_remark (by simpa using hremark)] at h
    cases h
  rw [parseLine_of_not_remark hremark, numbered_eq_ok_iff] at h
  obtain ⟨a, rest, ⟨hbody, ha⟩, -⟩ := record?_eq_ok_iff.mp h
  have hne : fields (trim text) ≠ [] := by
    intro hnil
    simp [hnil] at hbody
  refine ⟨(fields (trim text)).dropLast, a, rest, hremark, ?_, ha⟩
  rw [← hbody, List.getLast?_eq_some_getLast hne]
  exact (List.dropLast_append_getLast hne).symm

/-! ## Hexadecimal lines -/

/-- A line has one layout at most. -/
theorem Layout.unique {head' : List (List Char)} {a' rest' : List Char} (h : Layout text head a rest)
    (h' : Layout text head' a' rest') : head = head' ∧ a = a' ∧ rest = rest' := by
  have hfields := h.fields_eq.symm.trans h'.fields_eq
  obtain ⟨hhead, hbody⟩ := List.append_inj' hfields rfl
  have hsplit := splitFrame?_append h.not_mem rest
  rw [(List.cons.inj hbody).1, splitFrame?_append h'.not_mem] at hsplit
  cases hsplit
  exact ⟨hhead, rfl, rfl⟩

/-- What is read as data is what follows the flags, unless these are not ASCII. -/
theorem dataText_cases (rest : List Char) :
    dataText rest = behindFlags rest ∧
      (∀ flags more, rest = '#' :: flags :: more → flags.toNat < 128) ∨
    ∃ flags more, rest = '#' :: flags :: more ∧ ¬flags.toNat < 128 ∧ dataText rest = [] := by
  unfold dataText
  split
  · next cs =>
    cases cs with
    | nil => exact .inl ⟨rfl, by simp⟩
    | cons flags more =>
      by_cases hascii : flags.toNat < 128
      · exact .inl ⟨if_pos hascii, by simpa using hascii⟩
      · exact .inr ⟨flags, more, rfl, hascii, if_neg hascii⟩
  · next hclassic =>
    exact .inl ⟨(behindFlags.eq_2 rest hclassic).symm, fun flags more hrest => absurd hrest (hclassic _)⟩

theorem DataTaken.behindFlags_iff {data : List UInt8} (h : DataTaken data (dataText rest)) :
    WritesData data (behindFlags rest) ↔ '+' ∉ behindFlags rest ∧
      ∀ flags more, rest = '#' :: flags :: more → flags.toNat < 128 ∨ ∀ c ∈ more, c = '.' := by
  rcases dataText_cases rest with ⟨hsame, hascii⟩ | ⟨flags, more, rfl, hflags, hnone⟩
  · rw [← hsame, h.writes_iff]
    exact ⟨fun hplus => ⟨hplus, fun flags more hrest => .inl (hascii flags more hrest)⟩, And.left⟩
  · -- the data is empty, so only points are data behind the flags
    have hdata : data.flatMap hexByte = [] := by
      rw [hnone] at h
      exact h.symm
    rw [WritesData, hdata]
    simp only [behindFlags, List.tail_cons, List.map_eq_nil_iff, List.filter_eq_nil_iff,
      bne_iff_ne, ne_eq, not_not]
    constructor
    · intro hpoints
      refine ⟨fun hplus => absurd (hpoints '+' hplus) (by decide), ?_⟩
      rintro _ _ ⟨⟩
      exact .inr hpoints
    · rintro ⟨-, hshown⟩
      exact (hshown flags more rfl).resolve_left hflags

/-- A record is written in hexadecimal exactly if the line it is taken from is plain. -/
theorem Taken.hex_iff (h : Taken head a rest r) :
    WritesAddress r.frame.address a ∧ WritesData r.frame.data (behindFlags rest) ↔ Plain a rest := by
  rw [h.address.writes_iff, h.data.behindFlags_iff]
  exact ⟨fun ⟨ha, hdata, hflags⟩ => ⟨ha, hdata, hflags⟩,
    fun hplain => ⟨hplain.address, hplain.data, hplain.flags⟩⟩

theorem Taken.isHex_of_plain (h : Taken head a rest r) (hplain : Plain a rest) : IsHex a rest := by
  obtain ⟨haddress, hdata⟩ := h.hex_iff.mpr hplain
  exact ⟨haddress.isSome_digit?, hdata.mem⟩

/-- Behind a header that is in order only the frame can be at fault. -/
theorem fault_of_record? {line : List Char} {f : Faulty} {found : Option Span × UInt8}
    (hrecord : record? line head (a ++ '#' :: rest) = .error f) (ha : '#' ∉ a)
    (hhead : header? none 0 head = .ok found) : f.1 = .badAddress ∨ f.1 = .badPayload := by
  simp only [record?, hhead, splitFrame?_append ha, bind, Except.bind] at hrecord
  split at hrecord
  · next f' haddress =>
    cases hrecord
    exact .inl (congrArg Prod.fst (address?_eq_error haddress))
  · split at hrecord
    · next f' hdata =>
      cases hrecord
      exact .inr (congrArg Prod.fst (payload?_eq_error hdata))
    · cases hrecord

theorem Layout.rejected_iff (h : Layout text head a rest) :
    Rejected number text head ↔ ¬∃ r, Taken head a rest r := by
  constructor
  · rintro ⟨e, herror, -⟩ ⟨r, htaken⟩
    rw [h.accepted_iff.mpr htaken] at herror
    cases herror
  · intro hnone
    cases hrecord : record? (trim text) head (a ++ '#' :: rest) with
    | ok r =>
      have haccepted : parseLine number text = .ok (some r) := by rw [h.parseLine_eq, hrecord]; rfl
      exact absurd ⟨r, h.accepted_iff.mp haccepted⟩ hnone
    | error f =>
      refine ⟨⟨f.1, number, String.ofList f.2⟩, by rw [h.parseLine_eq, hrecord]; rfl, ?_⟩
      exact fun ⟨found, hhead⟩ => fault_of_record? hrecord h.not_mem hhead

/-- **Hexadecimal, but for signs and what is not looked at.** The address and the data of an accepted line
are written in hexadecimal exactly if the line is plain. A line that holds any other character there is
rejected exactly if it is not taken for a record. A plain one always is. -/
theorem accepted_hex_iff (number : Nat) (text : List Char) :
    (∀ r, parseLine number text = .ok (some r) →
      ∃ head a rest, Layout text head a rest ∧ Taken head a rest r ∧
        (WritesAddress r.frame.address a ∧ WritesData r.frame.data (behindFlags rest) ↔
          Plain a rest)) ∧
    ∀ head a rest, Layout text head a rest → ¬IsHex a rest →
      (Rejected number text head ↔ ¬∃ r, Taken head a rest r) ∧
        (Plain a rest → Rejected number text head) := by
  constructor
  · intro r haccepted
    obtain ⟨head, a, rest, hlayout, htaken⟩ := parseLine_eq_some_iff.mp haccepted
    exact ⟨head, a, rest, hlayout, htaken, htaken.hex_iff⟩
  · intro head a rest hlayout hother
    refine ⟨hlayout.rejected_iff, fun hplain => hlayout.rejected_iff.mpr ?_⟩
    exact fun ⟨r, htaken⟩ => hother (htaken.isHex_of_plain hplain)

/-! A line whose signs are taken for zeros, and one with a minus sign, which is not. -/

theorem accepted_hex_iff_signs :
    (parseLine 1 "+1#+2.0a".toList = .ok (some ⟨none, ⟨0, 1, [0x02, 0x0A]⟩⟩) ∧
      ∃ head a rest, Layout "+1#+2.0a".toList head a rest ∧
        Taken head a rest ⟨none, ⟨0, 1, [0x02, 0x0A]⟩⟩ ∧
        (WritesAddress 1 a ∧ WritesData [0x02, 0x0A] (behindFlags rest) ↔ Plain a rest)) ∧
    (Layout "1#2-".toList [] ['1'] ['2', '-'] ∧ ¬IsHex ['1'] ['2', '-'] ∧ Plain ['1'] ['2', '-'] ∧
      Rejected 1 "1#2-".toList []) := by
  have accepted : parseLine 1 "+1#+2.0a".toList = .ok (some ⟨none, ⟨0, 1, [0x02, 0x0A]⟩⟩) := by rfl
  have layout : Layout "1#2-".toList [] ['1'] ['2', '-'] := ⟨by decide, by decide, by decide⟩
  have other : ¬IsHex ['1'] ['2', '-'] := fun h =>
    absurd (h.data '-' (by decide)) (by decide)
  have plain : Plain ['1'] ['2', '-'] := ⟨by decide, by decide, by simp⟩
  exact ⟨⟨accepted, (accepted_hex_iff 1 _).1 _ accepted⟩, layout, other, plain,
    ((accepted_hex_iff 1 _).2 _ _ _ layout other).2 plain⟩

/-- What is accepted is not always hexadecimal. -/
theorem signs_accepted :
    ¬∀ (number : Nat) (text : List Char) (r : Record), parseLine number text = .ok (some r) →
      ∃ head a rest, Layout text head a rest ∧ WritesAddress r.frame.address a ∧
        WritesData r.frame.data (behindFlags rest) := by
  intro hexadecimal
  have accepted : parseLine 1 "123#+1+2".toList = .ok (some ⟨none, ⟨0, 0x123, [1, 2]⟩⟩) := by rfl
  obtain ⟨head, a, rest, layout, -, data⟩ := hexadecimal _ _ _ accepted
  have known : Layout "123#+1+2".toList [] "123".toList "+1+2".toList :=
    ⟨by decide, by decide, by decide⟩
  obtain ⟨-, -, rfl⟩ := layout.unique known
  exact absurd (data.mem '+' (by decide)) (by decide)

end CanScope.Capture
