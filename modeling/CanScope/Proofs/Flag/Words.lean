import CanScope.Flag.Source
import CanScope.Proofs.Text.Digits
import CanScope.Proofs.Text.Lines
import Mathlib.Data.List.Forall2

/-!
# The word that a flag's file holds

A file holds a word with blanks around it (`Trimmed`), and the word may be spelled in letters of either
case (`Spells`); only ASCII letters have two. Both are said apart from how the file is read, which is to
trim the text, to put it in lower case and to look it up.

**What an error shows.** A word that is neither on nor off is refused, and the error shows the text that was
looked up, not the one that stands in the file. The two differ exactly if the word has a capital letter.

**Results.**
* `trimmed_iff`, `spells_iff`: trimming finds the word, and lower case decides the spelling.
* `read_faithful_iff`: on and off are told apart as they should be, for every file; the report of any other
  word is faithful exactly if the word has no capital letter.
* `capitals_not_reported`: there is a word that is not reported as it stands.
-/
namespace CanScope

namespace Text

/-- `w` is the text without the blanks at its two ends. -/
structure Trimmed (text w : List Char) : Prop where
  around : ∃ front back, Blanks front ∧ Blanks back ∧ text = front ++ w ++ back
  first : ∀ c ∈ w.head?, isBlank c = false
  last : ∀ c ∈ w.getLast?, isBlank c = false

theorem Trimmed.trim_eq {text w : List Char} (h : Trimmed text w) : trim text = w := by
  obtain ⟨front, back, hfront, hback, rfl⟩ := h.around
  rcases List.eq_nil_or_concat w with rfl | ⟨_, _, hw⟩
  · rw [List.append_nil, trim_eq_nil_iff]
    exact List.forall_mem_append.mpr ⟨hfront, hback⟩
  · have hne : w ≠ [] := by simp [hw]
    refine trim_of_ends hfront hback ⟨w.head hne, List.head?_eq_some_head hne, ?_⟩
      ⟨w.getLast hne, List.getLast?_eq_some_getLast hne, ?_⟩
    · exact h.first _ (List.head?_eq_some_head hne)
    · exact h.last _ (List.getLast?_eq_some_getLast hne)

theorem exists_trimEnd_append (cs : List Char) : ∃ back, Blanks back ∧ cs = trimEnd cs ++ back := by
  refine ⟨(cs.reverse.takeWhile isBlank).reverse, fun c hc => ?_, ?_⟩
  · exact List.mem_takeWhile_imp (List.mem_reverse.mp hc)
  · rw [trimEnd, ← List.reverse_append, List.takeWhile_append_dropWhile, List.reverse_reverse]

theorem not_isBlank_of_head?_dropWhile {cs : List Char} {c : Char}
    (h : (cs.dropWhile isBlank).head? = some c) : isBlank c = false := by
  have hnot := List.head?_dropWhile_not isBlank cs
  simpa [h] using hnot

theorem trimmed_trim (text : List Char) : Trimmed text (trim text) := by
  obtain ⟨back, hback, hstart⟩ := exists_trimEnd_append (trimStart text)
  refine ⟨⟨text.takeWhile isBlank, back, fun c hc => List.mem_takeWhile_imp hc, hback, ?_⟩, ?_, ?_⟩
  · rw [List.append_assoc, trim, ← hstart, trimStart, List.takeWhile_append_dropWhile]
  · -- the first character is that of the text without the blanks in front
    intro c hc
    have hfirst : (trimStart text).head? = some c := by
      rw [hstart, List.head?_append, ← trim, Option.mem_def.mp hc, Option.some_or]
    exact not_isBlank_of_head?_dropWhile hfirst
  · intro c hc
    rw [trim, trimEnd, List.getLast?_reverse, Option.mem_def] at hc
    exact not_isBlank_of_head?_dropWhile hc

theorem trimmed_iff (text w : List Char) : Trimmed text w ↔ trim text = w :=
  ⟨Trimmed.trim_eq, fun h => h ▸ trimmed_trim text⟩

/-- The two characters are equal, or one ASCII letter in its two cases. -/
def SameLetter (c d : Char) : Prop :=
  c = d ∨ 65 ≤ c.toNat ∧ c.toNat ≤ 90 ∧ d.toNat = c.toNat + 32 ∨
    65 ≤ d.toNat ∧ d.toNat ≤ 90 ∧ c.toNat = d.toNat + 32

/-- `w` is the word, in letters of either case. -/
def Spells (w : List Char) (word : String) : Prop := List.Forall₂ SameLetter w word.toList

theorem sameLetter_iff {c d : Char} (hd : d.toLower = d) : SameLetter c d ↔ c.toLower = d := by
  have hlow := congrArg Char.toNat hd
  rw [toNat_toLower] at hlow
  rw [SameLetter, ← Char.toNat_inj, ← Char.toNat_inj, toNat_toLower]
  split <;> split at hlow <;> omega

theorem spells_iff {word : String} (hword : word.toList.map Char.toLower = word.toList) (w : List Char) :
    Spells w word ↔ w.map Char.toLower = word.toList := by
  unfold Spells
  generalize word.toList = letters at hword
  induction w generalizing letters with
  | nil => rw [List.forall₂_nil_left_iff, List.map_nil, eq_comm]
  | cons c w ih =>
    cases letters with
    | nil => rw [List.forall₂_nil_right_iff]; simp
    | cons d letters =>
      obtain ⟨hd, hletters⟩ := List.cons_eq_cons.mp hword
      rw [List.forall₂_cons, sameLetter_iff hd, ih letters hletters, List.map_cons, List.cons.injEq]

theorem toLower_eq_self_iff (c : Char) : c.toLower = c ↔ c.isUpper = false := by
  have hupper : c.isUpper = true ↔ 65 ≤ c.toNat ∧ c.toNat ≤ 90 := decide_eq_true_iff
  rw [← Char.toNat_inj, toNat_toLower, Bool.eq_false_iff, ne_eq, hupper]
  split <;> omega

end Text

open Text

namespace Files

theorem text?_toUTF8 (text : String) : text? text.toUTF8 = .ok text := by
  have hvalid : text.toUTF8.IsValidUTF8 := text.isValidUTF8
  rw [text?, String.fromUTF8?, dif_pos hvalid]
  rfl

end Files

namespace Flag

def SaysOn (w : List Char) : Prop := Spells w "1" ∨ Spells w "true" ∨ Spells w "on" ∨ Spells w "yes"

def SaysOff (w : List Char) : Prop :=
  w = [] ∨ Spells w "0" ∨ Spells w "false" ∨ Spells w "off" ∨ Spells w "no"

/-- What should be read of the flag `key` from a file that holds `w`: any word that is neither on nor off is
reported as it stands. -/
structure Faithful (key : String) (w : List Char) (r : Reading) : Prop where
  on : r = .ok (some true) ↔ SaysOn w
  off : r = .ok (some false) ↔ SaysOff w
  other : ¬SaysOn w → ¬SaysOff w → r = .error (.unrecognized key (String.ofList w))

/-! ## Looking a word up -/

/-- The word in lower case. -/
def lower (w : List Char) : String := String.ofList (w.map Char.toLower)

theorem lower_eq_iff {word : String} (hword : word.toList.map Char.toLower = word.toList) (w : List Char) :
    lower w = word ↔ Spells w word := by
  rw [spells_iff hword, lower, ← String.toList_inj, String.toList_ofList]

theorem lower_mem_onWords_iff (w : List Char) : lower w ∈ onWords ↔ SaysOn w := by
  simp only [onWords, List.mem_cons, List.not_mem_nil, or_false, SaysOn]
  rw [lower_eq_iff (by decide), lower_eq_iff (by decide), lower_eq_iff (by decide),
    lower_eq_iff (by decide)]

theorem lower_mem_offWords_iff (w : List Char) : lower w ∈ offWords ↔ SaysOff w := by
  have hempty : lower w = "" ↔ w = [] := by
    rw [lower, ← String.toList_inj, String.toList_ofList]
    exact List.map_eq_nil_iff
  simp only [offWords, List.mem_cons, List.not_mem_nil, or_false, SaysOff]
  rw [lower_eq_iff (by decide), lower_eq_iff (by decide), lower_eq_iff (by decide),
    lower_eq_iff (by decide), hempty]
  tauto

theorem not_saysOff_of_saysOn {w : List Char} (h : SaysOn w) : ¬SaysOff w := by
  rw [← lower_mem_onWords_iff] at h
  rw [← lower_mem_offWords_iff]
  have hapart : ∀ word ∈ onWords, word ∉ offWords := by decide
  exact hapart _ h

/-- Only capitals are changed by lower case. -/
theorem lower_eq_self_iff (w : List Char) : lower w = String.ofList w ↔ ∀ c ∈ w, c.isUpper = false := by
  rw [lower, ← String.toList_inj, String.toList_ofList, String.toList_ofList]
  simp only [← toLower_eq_self_iff]
  calc w.map Char.toLower = w
      ↔ w.map Char.toLower = w.map id := by rw [List.map_id]
    _ ↔ ∀ c ∈ w, c.toLower = c := List.map_inj_left

/-! ## Reading a file -/

theorem ofText_cases {text : String} {w : List Char} (hw : Trimmed text.toList w) (key : String) :
    (SaysOn w ∧ ofText key text = .ok true) ∨ (SaysOff w ∧ ofText key text = .ok false) ∨
      (¬SaysOn w ∧ ¬SaysOff w ∧ ofText key text = .error (.unrecognized key (lower w))) := by
  have hword : word text = lower w := by rw [word, hw.trim_eq, lower]
  rw [← lower_mem_onWords_iff, ← lower_mem_offWords_iff, ← hword]
  simp only [ofText]
  by_cases hon : word text ∈ onWords
  · exact .inl ⟨hon, if_pos hon⟩
  · rw [if_neg hon]
    by_cases hoff : word text ∈ offWords
    · exact .inr (.inl ⟨hoff, if_pos hoff⟩)
    · exact .inr (.inr ⟨hon, hoff, if_neg hoff⟩)

theorem read_eq {root key text : String} {files : Files.Tree}
    (hfile : files.read (Files.Path.join root key) = .ok text.toUTF8) :
    (FlagSource.directory root).read files key = (ofText key text).map some := by
  have hcontents : (files.read (Files.Path.join root key)).bind Files.text? = .ok text := by
    rw [hfile]
    exact Files.text?_toUTF8 text
  rw [FlagSource.read, FlagSource.reading, FlagSource.path, hcontents]
  rfl

/-- All that reading the file of a flag can give. -/
theorem read_cases {root key text : String} {files : Files.Tree} {w : List Char}
    (hfile : files.read (Files.Path.join root key) = .ok text.toUTF8) (hw : Trimmed text.toList w) :
    let r := (FlagSource.directory root).read files key
    (SaysOn w ∧ r = .ok (some true)) ∨ (SaysOff w ∧ r = .ok (some false)) ∨
      (¬SaysOn w ∧ ¬SaysOff w ∧ r = .error (.unrecognized key (lower w))) := by
  intro r
  have hr : r = (ofText key text).map some := read_eq hfile
  rcases ofText_cases hw key with ⟨hon, htext⟩ | ⟨hoff, htext⟩ | ⟨hon, hoff, htext⟩
  · exact .inl ⟨hon, by rw [hr, htext]; rfl⟩
  · exact .inr (.inl ⟨hoff, by rw [hr, htext]; rfl⟩)
  · exact .inr (.inr ⟨hon, hoff, by rw [hr, htext]; rfl⟩)

/-- **On, off, or shown in lower case.** Reading the file of a flag tells on and off apart, whatever the
blanks around the word and the case of its letters. Any other word is an error that shows it in lower case,
which is faithful exactly if the word has no capital letter. -/
theorem read_faithful_iff {root key text : String} {files : Files.Tree} {w : List Char}
    (hfile : files.read (Files.Path.join root key) = .ok text.toUTF8) (hw : Trimmed text.toList w) :
    let r := (FlagSource.directory root).read files key
    (Faithful key w r ↔ SaysOn w ∨ SaysOff w ∨ ∀ c ∈ w, c.isUpper = false) ∧
      (r = .ok (some true) ↔ SaysOn w) ∧ (r = .ok (some false) ↔ SaysOff w) ∧
      (¬SaysOn w → ¬SaysOff w → r = .error (.unrecognized key (lower w))) := by
  intro r
  rcases read_cases hfile hw with ⟨hon, hr⟩ | ⟨hoff, hr⟩ | ⟨hon, hoff, hr⟩
  · have hoff := not_saysOff_of_saysOn hon
    have hfaithful : Faithful key w r := ⟨by simp [r, hr, hon], by simp [r, hr, hoff], by simp [hon]⟩
    exact ⟨by simp [hfaithful, hon], hfaithful.on, hfaithful.off, by simp [hon]⟩
  · have hon : ¬SaysOn w := fun hon => not_saysOff_of_saysOn hon hoff
    have hfaithful : Faithful key w r := ⟨by simp [r, hr, hon], by simp [r, hr, hoff], by simp [hoff]⟩
    exact ⟨by simp [hfaithful, hoff], hfaithful.on, hfaithful.off, by simp [hoff]⟩
  · have hnoOn : r = .ok (some true) ↔ SaysOn w := by simp [r, hr, hon]
    have hnoOff : r = .ok (some false) ↔ SaysOff w := by simp [r, hr, hoff]
    refine ⟨?_, hnoOn, hnoOff, fun _ _ => hr⟩
    simp only [hon, hoff, false_or, ← lower_eq_self_iff]
    constructor
    · intro hfaithful
      have hshown := hr.symm.trans (hfaithful.other hon hoff)
      simpa using hshown
    · intro hlower
      exact ⟨hnoOn, hnoOff, fun _ _ => hlower ▸ hr⟩

/-! A word that is on but for its blanks and its case, and one that is not reported as it stands. -/

/-- A directory with the file of one flag in it. -/
def flagTree (text : String) : Files.Tree :=
  ⟨[(["params"], .directory), (["params", "ShowDebugInfo"], .file text.toUTF8)]⟩

theorem read_faithful_iff_mixedCase :
    (flagTree "\u3000YeS\n").read (Files.Path.join "params" "ShowDebugInfo") = .ok "\u3000YeS\n".toUTF8 ∧
    Trimmed "\u3000YeS\n".toList "YeS".toList ∧ SaysOn "YeS".toList ∧
    (FlagSource.directory "params").read (flagTree "\u3000YeS\n") "ShowDebugInfo" = .ok (some true) ∧
    Faithful "ShowDebugInfo" "YeS".toList
      ((FlagSource.directory "params").read (flagTree "\u3000YeS\n") "ShowDebugInfo") := by
  have file : (flagTree "\u3000YeS\n").read (Files.Path.join "params" "ShowDebugInfo") =
      .ok "\u3000YeS\n".toUTF8 := by rfl
  have trimmed : Trimmed "\u3000YeS\n".toList "YeS".toList := (trimmed_iff _ _).mpr (by decide)
  have on : SaysOn "YeS".toList := .inr (.inr (.inr ((spells_iff (by decide) _).mpr (by decide))))
  have read := read_faithful_iff file trimmed
  exact ⟨file, trimmed, on, read.2.1.mpr on, read.1.mpr (.inl on)⟩

/-- A word with a capital letter is not reported as it stands. -/
theorem capitals_not_reported :
    ¬∀ (root key text : String) (files : Files.Tree) (w : List Char),
      files.read (Files.Path.join root key) = .ok text.toUTF8 → Trimmed text.toList w →
      Faithful key w ((FlagSource.directory root).read files key) := by
  intro faithful
  have trimmed : Trimmed "Maybe\n".toList "Maybe".toList := (trimmed_iff _ _).mpr (by decide)
  have shown := faithful "params" "ShowDebugInfo" _ (flagTree "Maybe\n") _ rfl trimmed
  have other : ¬SaysOn "Maybe".toList ∧ ¬SaysOff "Maybe".toList := by
    rw [← lower_mem_onWords_iff, ← lower_mem_offWords_iff]
    decide
  have report : (FlagSource.directory "params").read (flagTree "Maybe\n") "ShowDebugInfo" =
      .error (.unrecognized "ShowDebugInfo" "maybe") := by rfl
  have same := report.symm.trans (shown.other other.1 other.2)
  simp at same

end Flag

end CanScope
