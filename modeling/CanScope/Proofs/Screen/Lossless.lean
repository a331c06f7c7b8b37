import CanScope.Proofs.Text.Spaced
import CanScope.Screen.TextScreen

/-!
# The text screen loses nothing

Two snapshots that give the same screen show the same: the count, the rows, and of each row its key, its
payload and its style. There is nothing on a screen that says how wide a column is, so it is read back
from what stands in it.

**A row.** Its line is words with spaces between them: the bus, the address, and the digits of each byte.
`fields` finds them again however wide the bus and the address are, and without payload there are just
two (`fields_line`).

**The style.** None of the characters that mark a style is in a line (`lineChar_of_mem_line`), so the
style is read first (`TextStyle.tells`) and the mark taken off. Nor is there a line feed in a marked line,
so the screen is cut back into its lines.

**Results.**
* `screen_tells_all`: two screens in one style are the same exactly if they show the same, two lines
  exactly if their rows have the same key and payload, and two payloads are written alike only if they
  are the same.
-/
namespace CanScope

open CanScope.Text

/-- What a row shows: the key, the payload and the style of its frame, but not its stamp. -/
def Row.shown (r : Row) : Key × List UInt8 × Style := (r.frame.key, r.frame.payload, r.style)

/-! ## The line of a row -/

/-- What the line of a row is written with. -/
def LineChar (c : Char) : Prop := c = ' ' ∨ c = 'x' ∨ (digit? 16 c).isSome

instance (c : Char) : Decidable (LineChar c) := inferInstanceAs (Decidable (_ ∨ _ ∨ _))

namespace Row

def busText (r : Row) : List Char := Nat.toDigits 10 r.frame.key.bus.toNat

def addressText (r : Row) : List Char := padStart 3 '0' (hexDigits r.frame.key.address.toNat)

theorem toList_line (r : Row) :
    r.line.toList = List.replicate (2 - r.busText.length) ' ' ++
      (r.busText ++ [' ', ' ', ' '] ++
        (('0' :: 'x' :: r.addressText) ++ [' ', ' '] ++ (spacedHex r.frame.payload).toList)) := by
  simp [line, Key.addressText, hex, padStart, busText, addressText, Frame.dataText]

theorem natural?_busText (r : Row) : natural? 10 r.busText = some r.frame.key.bus.toNat :=
  natural?_toDigits (by decide) (by decide) 0 _

theorem natural?_addressText (r : Row) : natural? 16 r.addressText = some r.frame.key.address.toNat :=
  natural?_hexDigits _ _

theorem word_address (r : Row) : Word ('0' :: 'x' :: r.addressText) where
  ne_nil := by simp
  solid c hc := by
    simp only [List.mem_cons] at hc
    rcases hc with rfl | rfl | hc
    · decide
    · decide
    · exact (word_of_natural? r.natural?_addressText).solid c hc

theorem fields_line (r : Row) :
    fields r.line.toList = r.busText :: ('0' :: 'x' :: r.addressText) :: r.frame.payload.map hexByte := by
  have hpad : Blanks (List.replicate (2 - r.busText.length) ' ') := by
    intro c hc
    rw [List.eq_of_mem_replicate hc]
    decide
  rw [toList_line, fields_blanks_append hpad,
    (word_of_natural? r.natural?_busText).fields_append (by decide) (by decide),
    r.word_address.fields_append (by decide) (by decide), fields_spacedHex]

theorem line_eq_iff (r r' : Row) :
    r.line = r'.line ↔ r.frame.key = r'.frame.key ∧ r.frame.payload = r'.frame.payload := by
  constructor
  · intro h
    have hfields : fields r.line.toList = fields r'.line.toList := by rw [h]
    rw [fields_line, fields_line] at hfields
    simp only [List.cons.injEq, true_and] at hfields
    obtain ⟨hbus, haddress, hdata⟩ := hfields
    have hbus' : some r.frame.key.bus.toNat = some r'.frame.key.bus.toNat := by
      rw [← natural?_busText, hbus, natural?_busText]
    have haddress' : some r.frame.key.address.toNat = some r'.frame.key.address.toNat := by
      rw [← natural?_addressText, haddress, natural?_addressText]
    refine ⟨?_, (List.map_inj_right fun _ _ hbyte => hexByte_injective hbyte).mp hdata⟩
    exact congrArg₂ Key.mk (UInt8.toNat_inj.mp (Option.some.inj hbus'))
      (UInt32.toNat_inj.mp (Option.some.inj haddress'))
  · intro ⟨hkey, hdata⟩
    unfold line Frame.dataText
    rw [hkey, hdata]

theorem lineChar_of_mem_line {r : Row} {c : Char} (h : c ∈ r.line.toList) : LineChar c := by
  rw [toList_line] at h
  simp only [List.mem_append, List.mem_cons, List.not_mem_nil, or_false, or_self] at h
  rcases h with hpad | (hbus | hspace) | ((hzero | hx | haddress) | hspace) | hdata
  · exact .inl (List.eq_of_mem_replicate hpad)
  · exact .inr (.inr (isSome_digit?_of_le (by decide) (isSome_digit?_of_natural? r.natural?_busText c hbus)))
  · exact .inl hspace
  · subst hzero
    decide
  · exact .inr (.inl hx)
  · exact .inr (.inr (isSome_digit?_of_natural? r.natural?_addressText c haddress))
  · exact .inl hspace
  · exact (mem_spacedHex hdata).imp_right .inr

end Row

/-! ## The mark of a style -/

/-- The style that a marked line tells. -/
def TextStyle.tells (style : TextStyle) (text : List Char) : Style :=
  if style.ansi then
    if text.head? = some '\x1b' then
      if text[3]? = some '0' then .stale else .invalid
    else .fresh
  else if 't' ∈ text then .stale
  else if 'v' ∈ text then .invalid
  else .fresh

theorem TextStyle.tells_mark {line : String} (h : ∀ c ∈ line.toList, LineChar c) (style : TextStyle)
    (st : Style) : style.tells (style.mark line st).toList = st := by
  have hescape : line.toList.head? ≠ some '\x1b' := by
    intro hhead
    exact absurd (h _ (List.mem_of_head? hhead)) (by decide)
  have hstale : 't' ∉ line.toList := fun hc => absurd (h _ hc) (by decide)
  have hinvalid : 'v' ∉ line.toList := fun hc => absurd (h _ hc) (by decide)
  obtain ⟨ansi⟩ := style
  unfold tells
  cases ansi with
  | true => cases st <;> simp [mark, hescape]
  | false => cases st <;> simp [mark, hstale, hinvalid]

/-- Once the style is known, so is what to take off. -/
theorem TextStyle.mark_inj {line line' : String} (h : ∀ c ∈ line.toList, LineChar c)
    (h' : ∀ c ∈ line'.toList, LineChar c) {style : TextStyle} {st st' : Style}
    (hmark : style.mark line st = style.mark line' st') : line = line' ∧ st = st' := by
  have htells := congrArg (fun text => style.tells text.toList) hmark
  simp only [tells_mark h, tells_mark h'] at htells
  subst htells
  refine ⟨?_, rfl⟩
  rw [← String.toList_inj] at hmark ⊢
  obtain ⟨ansi⟩ := style
  cases st with
  | fresh => exact hmark
  | stale => cases ansi <;> simpa [mark] using hmark
  | invalid => cases ansi <;> simpa [mark] using hmark

theorem TextStyle.mark_line_eq_iff (style : TextStyle) (r r' : Row) :
    style.mark r.line r.style = style.mark r'.line r'.style ↔ r.shown = r'.shown := by
  unfold Row.shown
  rw [Prod.mk.injEq, Prod.mk.injEq, ← and_assoc, ← Row.line_eq_iff]
  constructor
  · exact mark_inj (fun _ => Row.lineChar_of_mem_line) (fun _ => Row.lineChar_of_mem_line)
  · intro ⟨hline, hstyle⟩
    rw [hline, hstyle]

/-! ## The lines of a screen -/

theorem TextStyle.not_lineFeed_mark {line : String} (h : ∀ c ∈ line.toList, LineChar c)
    (style : TextStyle) (st : Style) : '\n' ∉ (style.mark line st).toList := by
  have hline : '\n' ∉ line.toList := fun hc => absurd (h _ hc) (by decide)
  obtain ⟨ansi⟩ := style
  cases ansi <;> cases st <;> simp [mark, reset, hline]

theorem TextStyle.not_lineFeed_title {text : String} (h : '\n' ∉ text.toList) (style : TextStyle) :
    '\n' ∉ (style.title text).toList := by
  obtain ⟨ansi⟩ := style
  cases ansi <;> simp [title, reset, h]

theorem Snapshot.toList_countLabel (s : Snapshot) :
    s.countLabel.toList = "Messages: ".toList ++ Nat.toDigits 10 s.total := by
  simp [countLabel]

theorem Snapshot.natural?_total (s : Snapshot) : natural? 10 (Nat.toDigits 10 s.total) = some s.total :=
  natural?_toDigits (by decide) (by decide) 0 _

theorem Snapshot.countLabel_eq_iff (s s' : Snapshot) : s.countLabel = s'.countLabel ↔ s.total = s'.total := by
  constructor
  · intro h
    rw [← String.toList_inj, toList_countLabel, toList_countLabel, List.append_cancel_left_eq] at h
    have htotal : some s.total = some s'.total := by
      rw [← natural?_total, h, natural?_total]
    exact Option.some.inj htotal
  · intro h
    unfold countLabel
    rw [h]

theorem Snapshot.not_lineFeed_countLabel (s : Snapshot) : '\n' ∉ s.countLabel.toList := by
  rw [toList_countLabel, List.mem_append, not_or]
  refine ⟨by decide, ?_⟩
  intro hc
  exact absurd (isSome_digit?_of_natural? s.natural?_total _ hc) (by decide)

theorem Snapshot.not_lineFeed_textLines (s : Snapshot) (style : TextStyle) :
    ∀ line ∈ s.textLines style, '\n' ∉ line.toList := by
  intro line hline
  unfold textLines at hline
  simp only [List.mem_cons, List.mem_map] at hline
  rcases hline with rfl | rfl | ⟨r, -, rfl⟩
  · have hheading : '\n' ∉ (style.title heading).toList := style.not_lineFeed_title (by decide)
    simp [hheading, s.not_lineFeed_countLabel]
  · exact style.not_lineFeed_title (by decide)
  · exact style.not_lineFeed_mark (fun _ => Row.lineChar_of_mem_line) r.style

/-- Each line ends with a line feed, and nothing follows the last. -/
theorem pieces_join (lines : List String) (h : ∀ line ∈ lines, '\n' ∉ line.toList) :
    pieces (· == '\n') (String.join (lines.map (· ++ "\n"))).toList = lines.map String.toList ++ [[]] := by
  rw [String.toList_join, List.flatMap_map]
  induction lines with
  | nil => rfl
  | cons line lines ih =>
    have hline : ∀ c ∈ line.toList, (c == '\n') = false := by
      intro c hc
      rw [beq_eq_false_iff_ne]
      intro heq
      exact h line List.mem_cons_self (heq ▸ hc)
    have hrest := ih fun l hl => h l (List.mem_cons_of_mem _ hl)
    have hfeed : "\n".toList = ['\n'] := rfl
    rw [List.flatMap_cons, String.toList_append, hfeed, List.append_assoc, List.singleton_append,
      pieces_append_cons _ hline rfl, hrest]
    rfl

theorem Snapshot.render_eq_iff (s s' : Snapshot) (style : TextStyle) :
    s.render style = s'.render style ↔ s.textLines style = s'.textLines style := by
  constructor
  · intro h
    have hpieces : pieces (· == '\n') (s.render style).toList =
        pieces (· == '\n') (s'.render style).toList := by rw [h]
    unfold render at hpieces
    rw [pieces_join _ (s.not_lineFeed_textLines style), pieces_join _ (s'.not_lineFeed_textLines style)]
      at hpieces
    exact (List.map_inj_right fun _ _ => String.toList_inj.mp).mp (List.append_cancel_right hpieces)
  · intro h
    unfold render
    rw [h]

/-- Two functions that tell the same things apart tell the same lists apart. -/
theorem map_eq_map_iff {α β γ : Type} {f : α → β} {g : α → γ} (h : ∀ a b, f a = f b ↔ g a = g b)
    (l l' : List α) : l.map f = l'.map f ↔ l.map g = l'.map g := by
  induction l generalizing l' with
  | nil => cases l' <;> simp
  | cons a l ih =>
    cases l' with
    | nil => simp
    | cons b l' => simp only [List.map_cons, List.cons.injEq, h a b, ih l']

/-- **The text screen loses nothing.** With and without colours, two snapshots are drawn as the same text
exactly if they count the same frames and show the same rows: as many, and one by one the same bus,
address, payload and style. The line of a row tells its bus, its address and its payload, and the digits
of a payload tell the payload, whatever its length. -/
theorem screen_tells_all :
    (∀ (s s' : Snapshot) (style : TextStyle), s.render style = s'.render style ↔
      s.total = s'.total ∧ s.rows.map Row.shown = s'.rows.map Row.shown) ∧
    (∀ r r' : Row,
      r.line = r'.line ↔ r.frame.key = r'.frame.key ∧ r.frame.payload = r'.frame.payload) ∧
    Function.Injective spacedHex := by
  refine ⟨?_, Row.line_eq_iff, spacedHex_injective⟩
  intro s s' style
  rw [s.render_eq_iff s' style, ← s.countLabel_eq_iff s', ← map_eq_map_iff style.mark_line_eq_iff]
  unfold Snapshot.textLines
  simp only [List.cons.injEq, String.append_right_inj, true_and]

end CanScope
