import Mathlib
import Prose.Pipeline

/-!
# Line ends

A line end is a line feed with the carriage return right before it, if there is one. What the reader
keeps of a text are the characters that are in no line end (`joinLines_eq_outsideLineEnds`), so it
keeps no line feed, and it takes back a line feed put behind a text that it could have read
(`joinLines_append_lineFeed`).
-/

namespace Prose.Pipeline

/-- Is `c` in a line end when `rest` follows it? -/
def inLineEnd (c : Char) (rest : Text) : Bool :=
  c = '\n' || c = '\r' && rest.head? = some '\n'

/-- The first character of a text unless it is in a line end. -/
def headOutside? : Text → Option Char
  | [] => none
  | c :: rest => if inLineEnd c rest then none else some c

/-- The characters of a text that are in no line end. -/
def outsideLineEnds (t : Text) : Text :=
  t.tails.filterMap headOutside?

theorem joinLines_cons (c : Char) (rest : Text) :
    joinLines (c :: rest) = if inLineEnd c rest then joinLines rest else c :: joinLines rest := by
  by_cases hFeed : c = '\n'
  · subst hFeed
    rw [joinLines, inLineEnd]
    simp
  · by_cases hReturn : c = '\r' ∧ rest.head? = some '\n'
    · obtain ⟨rfl, hHead⟩ := hReturn
      obtain ⟨rest, rfl⟩ := List.head?_eq_some_iff.1 hHead
      rw [joinLines, joinLines, inLineEnd]
      simp
    · have hEnd : inLineEnd c rest = false := by simpa [inLineEnd, hFeed] using hReturn
      rw [hEnd, joinLines]
      · rfl
      · exact hFeed
      · rintro rest' rfl rfl
        exact hReturn ⟨rfl, rfl⟩

/-- The reader deletes the line ends and nothing else. -/
theorem joinLines_eq_outsideLineEnds (t : Text) : joinLines t = outsideLineEnds t := by
  induction t with
  | nil => rfl
  | cons c rest ih =>
    have hCons : outsideLineEnds (c :: rest) =
        (headOutside? (c :: rest)).toList ++ outsideLineEnds rest := by
      rw [outsideLineEnds, List.tails_cons, List.filterMap_cons]
      cases headOutside? (c :: rest) <;> rfl
    rw [joinLines_cons, ih, hCons, headOutside?]
    split <;> rfl

theorem not_mem_joinLines (t : Text) : '\n' ∉ joinLines t := by
  induction t with
  | nil => exact List.not_mem_nil
  | cons c rest ih =>
    rw [joinLines_cons]
    split
    next => exact ih
    next hEnd =>
      rw [List.mem_cons, not_or]
      refine ⟨?_, ih⟩
      rintro rfl
      exact hEnd rfl

/-- A line feed behind a text without line feeds is deleted again. A carriage return at the end of
the text would go with it. -/
theorem joinLines_append_lineFeed {t : Text} (hFeed : '\n' ∉ t) (hLast : t.getLast? ≠ some '\r') :
    joinLines (t ++ ['\n']) = t := by
  induction t with
  | nil => rfl
  | cons c rest ih =>
    rw [List.mem_cons, not_or] at hFeed
    have hRest : rest.getLast? ≠ some '\r' := by
      intro h
      rw [List.getLast?_cons, h] at hLast
      exact hLast rfl
    have hEnd : inLineEnd c (rest ++ ['\n']) = false := by
      simp only [inLineEnd, Bool.or_eq_false_iff, Bool.and_eq_false_iff, decide_eq_false_iff_not]
      refine ⟨Ne.symm hFeed.1, ?_⟩
      cases rest with
      | nil =>
        refine .inl ?_
        rintro rfl
        exact hLast rfl
      | cons d rest =>
        refine .inr fun h => hFeed.2 ?_
        simp [Option.some.inj h]
    rw [List.cons_append, joinLines_cons, hEnd, ih hFeed.2 hRest]
    rfl

end Prose.Pipeline
