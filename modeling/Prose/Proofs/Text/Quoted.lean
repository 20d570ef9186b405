import Prose.Proofs.Text.Decimal
import Prose.Text.Quoted

/-!
# Quoted texts stand on one line

Quotation marks leave a character as it is when it is printable, and whatever they write for
another one is ASCII. So all characters of a quoted text are printable
(`Quoted.isPrintable_of_mem_text`), and a line break of any kind is not.
-/

namespace Prose

/-- A character with a shape of its own. -/
def isPrintable (c : Char) : Bool :=
  !Property.unprintable.contains c

/-- The ASCII characters from the space to the tilde. -/
def isAscii (c : Char) : Bool :=
  0x20 ≤ c.toNat && c.toNat ≤ 0x7E

/-- The characters that can end a line. -/
def isLineBreak (c : Char) : Bool :=
  c ∈ ['\n', '\x0b', '\x0c', '\r', '\u0085', '\u2028', '\u2029']

section

variable {c : Char}

theorem isPrintable_of_isAscii (h : isAscii c) : isPrintable c := by
  have hTable : ∀ r ∈ Property.unprintable, r.2 < 0x20 ∨ 0x7E < r.1 := by decide +kernel
  simp only [isAscii, Bool.and_eq_true, decide_eq_true_eq] at h
  simp only [isPrintable, Ranges.contains, Bool.not_eq_true', List.any_eq_false, Bool.and_eq_true,
    decide_eq_true_eq]
  intro r hr
  rcases hTable r hr with hLow | hHigh <;> omega

theorem isPrintable_of_all_isAscii {t : Text} (ht : t.all isAscii) (h : c ∈ t) : isPrintable c :=
  isPrintable_of_isAscii (List.all_eq_true.1 ht c h)

theorem isPrintable_of_isDigit (h : c.isDigit) : isPrintable c := by
  have hRange := Decimal.toNat_of_isDigit h
  refine isPrintable_of_isAscii ?_
  simp only [isAscii, Bool.and_eq_true, decide_eq_true_eq]
  omega

theorem isPrintable_eq_false {r : Nat × Nat} (hr : r ∈ Property.unprintable)
    (hc : r.1 ≤ c.toNat ∧ c.toNat ≤ r.2) : isPrintable c = false := by
  simp only [isPrintable, Ranges.contains, Bool.not_eq_false', List.any_eq_true, Bool.and_eq_true,
    decide_eq_true_eq]
  exact ⟨r, hr, hc⟩

theorem isLineBreak_eq_false (h : isPrintable c) : isLineBreak c = false := by
  have hControls : (0x0, 0x1F) ∈ Property.unprintable := by decide
  have hNextLine : (0x7F, 0xA0) ∈ Property.unprintable := by decide
  have hSeparators : (0x2028, 0x202F) ∈ Property.unprintable := by decide +kernel
  by_contra hBreak
  have hNot : isPrintable c = false := by
    simp only [isLineBreak, decide_eq_false_iff_not, not_not, List.mem_cons, List.not_mem_nil,
      or_false] at hBreak
    rcases hBreak with rfl | rfl | rfl | rfl | rfl | rfl | rfl
    · exact isPrintable_eq_false hControls (by decide)
    · exact isPrintable_eq_false hControls (by decide)
    · exact isPrintable_eq_false hControls (by decide)
    · exact isPrintable_eq_false hControls (by decide)
    · exact isPrintable_eq_false hNextLine (by decide)
    · exact isPrintable_eq_false hSeparators (by decide)
    · exact isPrintable_eq_false hSeparators (by decide)
  rw [h] at hNot
  cases hNot

end

theorem isAscii_of_mem_toDigits {n : Nat} {c : Char} (h : c ∈ Nat.toDigits 16 n) : isAscii c := by
  have hDigit : ∀ d < 16, isAscii d.digitChar := by decide
  induction n using Nat.strongRecOn with
  | ind n ih =>
    by_cases hSmall : n < 16
    · rw [Nat.toDigits_of_lt_base hSmall, List.mem_singleton] at h
      exact h ▸ hDigit n hSmall
    · rw [Nat.toDigits_of_base_le (by decide) (Nat.le_of_not_lt hSmall), List.mem_append,
        List.mem_singleton] at h
      rcases h with h | h
      · exact ih (n / 16) (by omega) h
      · exact h ▸ hDigit (n % 16) (by omega)

namespace Quoted

variable {mark c d : Char}

theorem isPrintable_of_mem_byNumber (h : d ∈ byNumber c) : isPrintable d := by
  simp only [byNumber, List.mem_append] at h
  rcases h with (h | h) | h
  · exact isPrintable_of_all_isAscii (by decide) h
  · exact isPrintable_of_isAscii (isAscii_of_mem_toDigits h)
  · exact isPrintable_of_all_isAscii (by decide) h

theorem isPrintable_of_mem_escape (hMark : isPrintable mark) (h : d ∈ escape mark c) :
    isPrintable d := by
  unfold escape at h
  split_ifs at h with hNull hTab hReturn hFeed hMarked hNumber
  · exact isPrintable_of_all_isAscii (by decide) h
  · exact isPrintable_of_all_isAscii (by decide) h
  · exact isPrintable_of_all_isAscii (by decide) h
  · exact isPrintable_of_all_isAscii (by decide) h
  · have hBackslash : isPrintable '\\' := isPrintable_of_isAscii (by decide)
    simp only [Bool.or_eq_true, decide_eq_true_eq] at hMarked
    simp only [List.mem_cons, List.not_mem_nil, or_false] at h
    rcases h with rfl | rfl
    · exact hBackslash
    · rcases hMarked with rfl | rfl
      · exact hBackslash
      · exact hMark
  · exact isPrintable_of_mem_byNumber h
  · rw [List.mem_singleton] at h
    simpa [isPrintable, h] using hNumber

theorem isPrintable_of_mem_text {t : Text} (h : d ∈ Quoted.text t) : isPrintable d := by
  have hMark : isPrintable '"' := isPrintable_of_isAscii (by decide)
  simp only [Quoted.text, List.mem_append, List.mem_cons, List.mem_flatMap, List.not_mem_nil,
    or_false] at h
  rcases h with (rfl | ⟨c, -, h⟩) | rfl
  · exact hMark
  · exact isPrintable_of_mem_escape hMark h
  · exact hMark

theorem isPrintable_of_mem_char (h : d ∈ Quoted.char c) : isPrintable d := by
  have hMark : isPrintable '\'' := isPrintable_of_isAscii (by decide)
  simp only [Quoted.char, List.mem_append, List.mem_cons, List.not_mem_nil, or_false] at h
  rcases h with (rfl | h) | rfl
  · exact hMark
  · exact isPrintable_of_mem_escape hMark h
  · exact hMark

/-- A quoted character stands on one line. -/
theorem not_mem_char (c : Char) : '\n' ∉ Quoted.char c := by
  intro h
  have hBreak : isLineBreak '\n' = false := isLineBreak_eq_false (isPrintable_of_mem_char h)
  cases hBreak

end Quoted

end Prose
