import CanScope.Text.Blank

/-!
# Words set apart by blanks

`Joined words line` says that `line` is these words in their order with blanks between any two, at
least one, and `Spread words text` that there may be blanks around them as well. A list of words can be
spread in many ways: `trim` leaves the words joined, and `fields` gives them back.

**What a word is.** At least one character, and no blank among them. A relation that asked for nothing
else would hold of words that `fields` cuts in two, or never sees.

**Results.**
* `fields_of_joined`: cutting at the blanks undoes the joining.
* `Spread.joined_trim`: trimming takes off what stands around the words, and nothing of them.
-/
namespace CanScope.Text

/-- A run of blanks, which may be empty. -/
def Blanks (gap : List Char) : Prop := ∀ c ∈ gap, isBlank c = true

instance (gap : List Char) : Decidable (Blanks gap) :=
  decidable_of_iff (gap.all isBlank = true) List.all_eq_true

/-- A text that is a single field. -/
structure Word (w : List Char) : Prop where
  ne_nil : w ≠ []
  solid : ∀ c ∈ w, isBlank c = false

theorem not_isBlank_of_any {w : List Char} (h : w.any isBlank = false) :
    ∀ c ∈ w, isBlank c = false := by
  simpa using h

/-- `line` is the words in their order with at least one blank between any two. -/
inductive Joined : List (List Char) → List Char → Prop
  | last (w : List Char) : Joined [w] w
  | before (w gap : List Char) {words : List (List Char)} {line : List Char} :
      Blanks gap → gap ≠ [] → Joined words line → Joined (w :: words) (w ++ gap ++ line)

/-- `text` is the words joined, with any blanks around them. -/
def Spread (words : List (List Char)) (text : List Char) : Prop :=
  ∃ front line back, Blanks front ∧ Joined words line ∧ Blanks back ∧ text = front ++ line ++ back

/-! ## Cutting at the blanks -/

theorem pieces_append_cons (sep : Char → Bool) {w : List Char} (hw : ∀ c ∈ w, sep c = false)
    {s : Char} (hs : sep s = true) (rest : List Char) :
    pieces sep (w ++ s :: rest) = w :: pieces sep rest := by
  induction w with
  | nil => simp [pieces, hs]
  | cons c w ih =>
    have hc : sep c = false := hw c List.mem_cons_self
    have hrest := ih fun d hd => hw d (List.mem_cons_of_mem _ hd)
    simp [pieces, hc, hrest]

theorem pieces_eq_singleton (sep : Char → Bool) {w : List Char} (hw : ∀ c ∈ w, sep c = false) :
    pieces sep w = [w] := by
  induction w with
  | nil => rfl
  | cons c w ih =>
    have hc : sep c = false := hw c List.mem_cons_self
    have hrest := ih fun d hd => hw d (List.mem_cons_of_mem _ hd)
    simp [pieces, hc, hrest]

theorem fields_blanks_append {gap : List Char} (h : Blanks gap) (text : List Char) :
    fields (gap ++ text) = fields text := by
  induction gap with
  | nil => rfl
  | cons c gap ih =>
    have hc : isBlank c = true := h c List.mem_cons_self
    have hrest := ih fun d hd => h d (List.mem_cons_of_mem _ hd)
    rw [← hrest]
    simp [fields, pieces, hc]

theorem Word.fields_eq {w : List Char} (hw : Word w) : fields w = [w] := by
  simp [fields, pieces_eq_singleton isBlank hw.solid, hw.ne_nil]

theorem Word.fields_append {w : List Char} (hw : Word w) {gap : List Char} (hgap : Blanks gap)
    (hne : gap ≠ []) (text : List Char) : fields (w ++ gap ++ text) = w :: fields text := by
  obtain ⟨s, gap, rfl⟩ := List.exists_cons_of_ne_nil hne
  have hs : isBlank s = true := hgap s List.mem_cons_self
  have hcut := pieces_append_cons isBlank hw.solid hs (gap ++ text)
  have hrest : fields (gap ++ text) = fields text :=
    fields_blanks_append (fun c hc => hgap c (List.mem_cons_of_mem _ hc)) text
  rw [← hrest, List.append_assoc, List.cons_append]
  simp [fields, hcut, hw.ne_nil]

/-- Every field is a word. -/
theorem word_of_mem_fields {w text : List Char} (h : w ∈ fields text) : Word w := by
  obtain ⟨hpiece, hne⟩ := List.mem_filter.mp h
  exact ⟨by simpa using hne, not_sep_of_mem_pieces isBlank text w hpiece⟩

/-- A word by itself is spread without any blanks. -/
theorem spread_singleton (w : List Char) : Spread [w] w :=
  ⟨[], w, [], by simp [Blanks], .last w, by simp [Blanks], by simp⟩

theorem fields_of_joined {words : List (List Char)} {line : List Char} (h : Joined words line)
    (hw : ∀ w ∈ words, Word w) : fields line = words := by
  induction h with
  | last w => exact (hw w List.mem_cons_self).fields_eq
  | before w gap hgap hne _ ih =>
    rw [(hw w List.mem_cons_self).fields_append hgap hne,
      ih fun v hv => hw v (List.mem_cons_of_mem _ hv)]

/-! ## The ends of a line -/

/-- A line is its first word and then nothing, or a blank and more. -/
theorem Joined.exists_rest {w : List Char} {words : List (List Char)} {line : List Char}
    (h : Joined (w :: words) line) : ∃ rest, line = w ++ rest ∧ ∀ c ∈ rest.head?, isBlank c = true := by
  cases h with
  | last => exact ⟨[], by simp, by simp⟩
  | @before _ gap _ line hgap hne _ =>
    obtain ⟨s, gap, rfl⟩ := List.exists_cons_of_ne_nil hne
    refine ⟨s :: gap ++ line, by simp, ?_⟩
    simpa using hgap s List.mem_cons_self

theorem Joined.not_isBlank_head {words : List (List Char)} {line : List Char}
    (h : Joined words line) (hw : ∀ w ∈ words, Word w) : ∃ c ∈ line.head?, isBlank c = false := by
  cases words with
  | nil => nomatch h
  | cons w words =>
    obtain ⟨rest, rfl, -⟩ := h.exists_rest
    have word := hw w List.mem_cons_self
    obtain ⟨c, w, rfl⟩ := List.exists_cons_of_ne_nil word.ne_nil
    exact ⟨c, by simp, word.solid c List.mem_cons_self⟩

theorem Joined.not_isBlank_getLast {words : List (List Char)} {line : List Char}
    (h : Joined words line) (hw : ∀ w ∈ words, Word w) :
    ∃ c ∈ line.getLast?, isBlank c = false := by
  induction h with
  | last w =>
    have word := hw w List.mem_cons_self
    exact ⟨w.getLast word.ne_nil, List.getLast?_eq_some_getLast word.ne_nil,
      word.solid _ (List.getLast_mem _)⟩
  | before w _ _ _ _ ih =>
    obtain ⟨c, hc, hblank⟩ := ih fun v hv => hw v (List.mem_cons_of_mem _ hv)
    exact ⟨c, by simp_all, hblank⟩

/-- Blanks around a text are what `trim` takes off, if the text itself has none at its ends. -/
theorem trim_of_ends {front line back : List Char} (hfront : Blanks front) (hback : Blanks back)
    (hfirst : ∃ c ∈ line.head?, isBlank c = false)
    (hlast : ∃ c ∈ line.getLast?, isBlank c = false) : trim (front ++ line ++ back) = line := by
  have hstart : trimStart (front ++ line ++ back) = line ++ back := by
    obtain ⟨c, hc, hblank⟩ := hfirst
    obtain ⟨line, rfl⟩ := List.head?_eq_some_iff.mp hc
    rw [trimStart, List.append_assoc, List.dropWhile_append_of_pos hfront]
    exact List.dropWhile_cons_of_neg (by simp [hblank])
  have hend : (line ++ back).reverse.dropWhile isBlank = line.reverse := by
    obtain ⟨c, hc, hblank⟩ := hlast
    obtain ⟨line, rfl⟩ := List.getLast?_eq_some_iff.mp hc
    rw [List.reverse_append, List.dropWhile_append_of_pos (by simpa [Blanks] using hback)]
    simp [hblank]
  rw [trim, hstart, trimEnd, hend, List.reverse_reverse]

theorem Spread.joined_trim {words : List (List Char)} {text : List Char} (h : Spread words text)
    (hw : ∀ w ∈ words, Word w) : Joined words (trim text) := by
  obtain ⟨front, line, back, hfront, hline, hback, rfl⟩ := h
  rwa [trim_of_ends hfront hback (hline.not_isBlank_head hw) (hline.not_isBlank_getLast hw)]

theorem Joined.eq_of_singleton {w line : List Char} (h : Joined [w] line) : line = w := by
  cases h with
  | last => rfl
  | before _ _ _ _ h => nomatch h

theorem Word.trim_eq {w : List Char} (hw : Word w) : trim w = w :=
  ((spread_singleton w).joined_trim (by simpa using hw)).eq_of_singleton

end CanScope.Text
