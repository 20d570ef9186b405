import Prose.Parse.Document
import Prose.Pattern.Reader
import Prose.Proofs.Pattern.Separation
import Prose.Proofs.Text.Joined

/-!
# Delimiters

The words of the default delimiter are the breaks (`mem_language_paragraphBreak`): an empty line, a
tab, or an indent. A single line feed is the delimiter of texts with one paragraph on each line.
-/

namespace Prose.Parse

open Text

/-! ### The default delimiter -/

theorem ofText?_defaultDelimiter : Pattern.ofText? defaultDelimiter = some paragraphBreak :=
  rfl

/-- A line feed, with a carriage return before it or without one. -/
def IsLineEnd (t : Text) : Prop :=
  t = ['\n'] ∨ t = ['\r', '\n']

/-- What ends a paragraph by default: an empty line, on which spaces and tabs may stand, a tab, or
an indent of four or more spaces. -/
inductive IsBreak : Text → Prop
  | emptyLine {s m t : Text} : IsLineEnd s → (∀ c ∈ m, c = ' ' ∨ c = '\t') → IsLineEnd t →
      IsBreak (s ++ m ++ t)
  | tab : IsBreak ['\t']
  | indent {n : Nat} : 4 ≤ n → IsBreak (List.replicate n ' ')

theorem mem_language_lineEnd {w : Text} :
    w ∈ (Pattern.times (.one (· = '\r')) 0 (some 1) true).language *
      (Pattern.one (· = '\n')).language ↔ IsLineEnd w := by
  constructor
  · rintro ⟨s, hs, t, ⟨d, hd, rfl⟩, rfl⟩
    obtain rfl : d = '\n' := of_decide_eq_true hd
    rcases Pattern.mem_language_optional_one.1 hs with rfl | ⟨c, hc, rfl⟩
    · exact .inl rfl
    · obtain rfl : c = '\r' := of_decide_eq_true hc
      exact .inr rfl
  · have hFeed : ['\n'] ∈ (Pattern.one (· = '\n')).language := ⟨'\n', rfl, rfl⟩
    rintro (rfl | rfl)
    · exact ⟨[], Pattern.mem_language_optional_one.2 (.inl rfl), _, hFeed, rfl⟩
    · exact ⟨['\r'], Pattern.mem_language_optional_one.2 (.inr ⟨'\r', rfl, rfl⟩), _, hFeed, rfl⟩

/-- The words of the default delimiter are the breaks. -/
theorem mem_language_paragraphBreak {w : Text} : w ∈ paragraphBreak.language ↔ IsBreak w := by
  have hAlternatives : paragraphBreak.language =
      (Pattern.times (.one (· = '\r')) 0 (some 1) true).language *
        (Pattern.one (· = '\n')).language *
        (Pattern.times (.one fun c => c = ' ' || c = '\t') 0 none true).language *
        ((Pattern.times (.one (· = '\r')) 0 (some 1) true).language *
          (Pattern.one (· = '\n')).language) +
      ((Pattern.one (· = '\t')).language +
        (Pattern.times (.one (· = ' ')) 4 none true).language) := by
    simp only [mul_assoc]
    rfl
  rw [hAlternatives, Language.mem_add, Language.mem_add]
  constructor
  · rintro (hLine | hTab | hIndent)
    · obtain ⟨-, ⟨s, hs, m, hm, rfl⟩, t, ht, rfl⟩ := hLine
      have hBlanks := (Pattern.mem_language_times_one.1 hm).2
      exact .emptyLine (mem_language_lineEnd.1 hs) (by simpa using hBlanks)
        (mem_language_lineEnd.1 ht)
    · obtain ⟨c, hc, rfl⟩ := Pattern.mem_language_one.1 hTab
      obtain rfl : c = '\t' := of_decide_eq_true hc
      exact .tab
    · obtain ⟨hLength, hAll⟩ := Pattern.mem_language_times_one.1 hIndent
      have hSpaces : w = List.replicate w.length ' ' :=
        List.eq_replicate_iff.2 ⟨rfl, by simpa using hAll⟩
      rw [hSpaces]
      exact .indent hLength
  · intro hw
    cases hw with
    | emptyLine hs hm ht =>
      left
      refine ⟨_, ⟨_, mem_language_lineEnd.2 hs, _, Pattern.mem_language_times_one.2 ⟨?_, ?_⟩, rfl⟩,
        _, mem_language_lineEnd.2 ht, rfl⟩
      · exact Nat.zero_le _
      · simpa using hm
    | tab => exact .inr (.inl (Pattern.mem_language_one.2 ⟨'\t', by decide, rfl⟩))
    | indent hn =>
      right
      right
      rw [Pattern.mem_language_times_one]
      simpa using hn

theorem matchesAll_paragraphBreak_iff {w : Text} : paragraphBreak.matchesAll w ↔ IsBreak w :=
  (Pattern.matchesAll_iff_mem_language rfl w).trans mem_language_paragraphBreak

theorem consumes_paragraphBreak : paragraphBreak.Consumes isBlank := by
  have hFeed : ∀ c, decide (c = '\n') → isBlank c := by simp [isBlank]
  have hReturn : ∀ c, decide (c = '\r') → isBlank c := by simp [isBlank]
  have hTab : ∀ c, decide (c = '\t') → isBlank c := by simp [isBlank]
  have hSpace : ∀ c, decide (c = ' ') → isBlank c := by simp [isBlank]
  have hEither : ∀ c, (decide (c = ' ') || decide (c = '\t')) → isBlank c := by
    intro c hc
    exact (Bool.or_eq_true_iff.1 hc).elim (hSpace c) (hTab c)
  exact ⟨⟨hReturn, hFeed, hEither, hReturn, hFeed⟩, hTab, hSpace⟩

theorem nil_not_mem_language_paragraphBreak : [] ∉ paragraphBreak.language := by
  rw [← Pattern.matchesAll_iff_mem_language rfl]
  decide

/-- No break stands in a text without line ends, tabs and indents. -/
theorem free_paragraphBreak {t : Text} (hChars : ∀ c ∈ t, c ≠ '\n' ∧ c ≠ '\t')
    (hIndent : ¬ List.replicate 4 ' ' <:+: t) : Free paragraphBreak.language t := by
  intro w hw hInfix
  rw [mem_language_paragraphBreak] at hw
  cases hw with
  | emptyLine hs _ _ =>
    refine (hChars '\n' (hInfix.mem ?_)).1 rfl
    rcases hs with rfl | rfl <;> simp
  | tab => exact (hChars '\t' (hInfix.mem (by simp))).2 rfl
  | @indent n hn =>
    have hFour : List.replicate 4 ' ' <+: List.replicate n ' ' :=
      ⟨List.replicate (n - 4) ' ', by rw [List.replicate_append_replicate]; congr 1; omega⟩
    exact hIndent (hFour.isInfix.trans hInfix)

/-! ### Lines -/

/-- A single line feed. -/
def lineFeed : Pattern :=
  .one (· = '\n')

theorem ofText?_lineFeed : Pattern.ofText? "\\n".toList = some lineFeed :=
  rfl

/-- Lines joined by line feeds are cut apart again. -/
theorem splitParagraphs_lineFeed_join {lines : List Text} (hTrimmed : ∀ t ∈ lines, IsTrimmed t)
    (hFeed : ∀ t ∈ lines, '\n' ∉ t) :
    splitParagraphs lineFeed (join ['\n'] lines) = lines := by
  have hSplit (t : Text) : lineFeed.split t = t.splitOn '\n' := by
    rw [lineFeed, Pattern.split_one, List.splitOn_eq_splitOnP]
    rfl
  show trimmed (lineFeed.split (join ['\n'] lines)) = lines
  rw [hSplit]
  by_cases hNe : lines = []
  · subst hNe
    rfl
  · rw [join, List.splitOn_intercalate '\n' hFeed hNe, trimmed_eq_self hTrimmed]

end Prose.Parse
