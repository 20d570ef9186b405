import Prose.Proofs.Pattern.Consumption

/-!
# Separated pieces

A text is separated when words of a language stand between its pieces and none stands inside a
piece. Cutting at the matches of a pattern separates (`separated_split`), and two separated texts
with a word between them are separated as one (`Separated.append`). A text can be separated in more
than one way, because two words can overlap.
-/

namespace Prose

/-- No word of `L` stands anywhere in `t`. -/
def Free (L : Language Char) (t : Text) : Prop :=
  ∀ w ∈ L, ¬ w <:+: t

theorem Free.of_infix {L : Language Char} {s t : Text} (h : Free L t) (hInfix : s <:+: t) :
    Free L s :=
  fun w hw hs => h w hw (hs.trans hInfix)

theorem free_nil {L : Language Char} (hNil : [] ∉ L) : Free L [] := by
  intro w hw hInfix
  rw [List.infix_nil] at hInfix
  exact hNil (hInfix ▸ hw)

/-- Words of `L` stand between the pieces of a text, and none inside a piece. -/
inductive Separated (L : Language Char) : Text → List Text → Prop
  | last {t : Text} : Free L t → Separated L t [t]
  | cut {s w t : Text} {pieces : List Text} : Free L s → w ∈ L → Separated L t pieces →
      Separated L (s ++ w ++ t) (s :: pieces)

namespace Separated

variable {L : Language Char}

theorem append {s w t : Text} {pieces pieces' : List Text} (hs : Separated L s pieces)
    (hw : w ∈ L) (ht : Separated L t pieces') : Separated L (s ++ w ++ t) (pieces ++ pieces') := by
  induction hs with
  | last hFree => exact .cut hFree hw ht
  | cut hFree hw' _ ih =>
    have hCut := Separated.cut hFree hw' ih
    simpa only [List.append_assoc, List.cons_append] using hCut

theorem eq_singleton {t : Text} {pieces : List Text} (h : Separated L t pieces) (hFree : Free L t) :
    pieces = [t] := by
  cases h with
  | last => rfl
  | @cut s w t pieces _ hw _ =>
    have hInfix : w <:+: s ++ w ++ t := List.infix_append s w t
    exact absurd hInfix (hFree w hw)

/-- One more character in front, where no word starts. -/
theorem consFirst {c : Char} {t : Text} {pieces : List Text} (h : Separated L t pieces)
    (hNone : ∀ w ∈ L, ¬ w <+: c :: t) : Separated L (c :: t) (Text.consFirst c pieces) := by
  have hCons {s : Text} (hFree : Free L s) (hs : s <+: t) : Free L (c :: s) := by
    intro w hw hInfix
    rcases List.infix_cons_iff.1 hInfix with hPrefix | hInfix
    · exact hNone w hw (hPrefix.trans ((List.prefix_cons_inj c).2 hs))
    · exact hFree w hw hInfix
  cases h with
  | last hFree => exact .last (hCons hFree List.prefix_rfl)
  | @cut s w t pieces hFree hw ht =>
    have hs : s <+: s ++ w ++ t := by
      rw [List.append_assoc]
      exact List.prefix_append s _
    exact .cut (s := c :: s) (hCons hFree hs) hw ht

end Separated

namespace Pattern

/-- Cutting a text at the matches of a pattern separates it. -/
theorem separated_pieces {r : Pattern} (h : r.isPlain) (hNil : [] ∉ r.language) (p : Place)
    (behindMatch : Bool) : Separated r.language p.rest (r.pieces p behindMatch) := by
  have hShorter {p q : Place} (hq : r.matchEnd? p = some q) : q.rest.length < p.rest.length := by
    obtain ⟨w, hw, hSpans⟩ := exists_spans_of_matchEnd? h hq
    have hNe : w ≠ [] := fun hEq => hNil (hEq ▸ hw)
    have hPos : 0 < w.length := List.length_pos_of_ne_nil hNe
    rw [hSpans.rest, List.length_append]
    omega
  fun_induction pieces r p behindMatch with
  | case1 p behindMatch hRest hMatch =>
    rw [Bool.and_eq_true, Option.isSome_iff_exists] at hMatch
    obtain ⟨⟨q, hq⟩, -⟩ := hMatch
    have := hShorter hq
    rw [hRest] at this
    simp at this
  | case2 p behindMatch hRest hMatch =>
    rw [hRest]
    exact .last (free_nil hNil)
  | case3 p behindMatch c rest hRest hNone ih =>
    rw [hRest]
    refine ih.consFirst fun w hw => ?_
    have hNot := not_prefix_of_matchEnd?_eq_none h hNone hw
    rwa [hRest] at hNot
  | case4 p behindMatch c rest hRest q hq hLess ih =>
    obtain ⟨w, hw, hSpans⟩ := exists_spans_of_matchEnd? h hq
    rw [hSpans.rest]
    exact .cut (free_nil hNil) hw ih
  | case5 p c rest hRest q hq hNotLess ih => exact absurd (hShorter hq) hNotLess
  | case6 p behindMatch c rest hRest q hq hNotLess hBehind ih =>
    exact absurd (hShorter hq) hNotLess

theorem separated_split {r : Pattern} (h : r.isPlain) (hNil : [] ∉ r.language) (t : Text) :
    Separated r.language t (r.split t) :=
  separated_pieces h hNil (Place.start t) false

/-- A text in which no word of the language stands is left in one piece. -/
theorem split_eq_singleton {r : Pattern} (h : r.isPlain) {t : Text} (hFree : Free r.language t) :
    r.split t = [t] := by
  have hNil : [] ∉ r.language := fun hNil => hFree [] hNil (List.nil_infix)
  exact (separated_split h hNil t).eq_singleton hFree

end Pattern

end Prose
