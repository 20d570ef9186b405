import Prose.Proofs.Pattern.Language
import Prose.Proofs.Text.Loss

/-!
# What a pattern consumes

A match covers only characters that the single-character tests of its pattern accept
(`Consumes.reaches`), whatever is repeated and preferred. So the words of its language have no
others (`Consumes.of_mem_language`), and cutting a text at the matches loses characters of this kind
only (`Consumes.loses_split`).
-/

namespace Prose

variable {f : Char → Bool}

namespace Place

/-- From `p` on to `q` there stand only characters that satisfy `f`. -/
def Reaches (f : Char → Bool) (p q : Place) : Prop :=
  ∃ s, p.rest = s ++ q.rest ∧ ∀ c ∈ s, f c

theorem Reaches.refl (f : Char → Bool) (p : Place) : Reaches f p p :=
  ⟨[], rfl, by simp⟩

theorem Reaches.trans {p q r : Place} (h : Reaches f p q) (g : Reaches f q r) : Reaches f p r := by
  obtain ⟨s, hs, hAll⟩ := h
  obtain ⟨s', hs', hAll'⟩ := g
  refine ⟨s ++ s', by rw [hs, hs', List.append_assoc], ?_⟩
  rw [List.forall_mem_append]
  exact ⟨hAll, hAll'⟩

end Place

namespace Pattern

open Place Text

/-- The characters that `r` consumes satisfy `f`. -/
def Consumes (f : Char → Bool) : Pattern → Prop
  | .empty => True
  | .one accepts => ∀ c, accepts c → f c
  | .look _ => True
  | .cat r s => Consumes f r ∧ Consumes f s
  | .alt r s => Consumes f r ∧ Consumes f s
  | .times r _ _ _ => Consumes f r

section Rounds

variable {step : Place → List Place} (hStep : ∀ p, ∀ q ∈ step p, Reaches f p q)
include hStep

theorem reaches_of_mem_power {n : Nat} {p q : Place} (h : q ∈ power step n p) :
    Reaches f p q := by
  induction n generalizing p with
  | zero =>
    obtain rfl := List.mem_singleton.1 h
    exact .refl f q
  | succ n ih =>
    obtain ⟨m, hm, h⟩ := exists_of_mem_unionMap h
    exact (hStep p m hm).trans (ih h)

theorem reaches_of_mem_upTo {greedy : Bool} {n : Nat} {p q : Place}
    (h : q ∈ upTo step greedy n p) : Reaches f p q := by
  induction n generalizing p with
  | zero =>
    obtain rfl := List.mem_singleton.1 h
    exact .refl f q
  | succ n ih =>
    rcases mem_prefer h with rfl | h
    · exact .refl f q
    · obtain ⟨m, hm, h⟩ := exists_of_mem_unionMap h
      exact (hStep p m hm).trans (ih h)

theorem reaches_of_mem_moreRounds {greedy : Bool} {n : Nat} {p q : Place}
    (h : q ∈ moreRounds step greedy n p) : Reaches f p q := by
  induction n generalizing p with
  | zero =>
    obtain rfl := List.mem_singleton.1 h
    exact .refl f q
  | succ n ih =>
    rcases mem_prefer h with rfl | h
    · exact .refl f q
    · obtain ⟨m, hm, h⟩ := exists_of_mem_unionMap h
      split at h
      · cases h
      · exact (hStep p m hm).trans (ih h)

theorem reaches_of_mem_someRounds {greedy : Bool} {p q : Place}
    (h : q ∈ someRounds step greedy p) : Reaches f p q := by
  obtain ⟨m, hm, h⟩ := exists_of_mem_unionMap h
  split at h
  · obtain rfl := List.mem_singleton.1 h
    exact hStep p q hm
  · exact (hStep p m hm).trans (reaches_of_mem_moreRounds hStep h)

end Rounds

/-- A match covers only what the pattern consumes. -/
theorem Consumes.reaches {r : Pattern} (hr : r.Consumes f) {p q : Place} (h : q ∈ r.ends p) :
    Reaches f p q := by
  induction r generalizing p q with
  | empty =>
    obtain rfl := List.mem_singleton.1 h
    exact .refl f q
  | one accepts =>
    obtain ⟨c, rest, hRest, hAccepts, rfl⟩ := mem_ends_one h
    exact ⟨[c], hRest, by simpa using hr c hAccepts⟩
  | look holds =>
    rw [ends] at h
    split at h
    · obtain rfl := List.mem_singleton.1 h
      exact .refl f q
    · cases h
  | cat r s ihr ihs =>
    obtain ⟨m, hm, h⟩ := exists_of_mem_unionMap h
    exact (ihr hr.1 hm).trans (ihs hr.2 h)
  | alt r s ihr ihs =>
    rcases mem_union h with h | h
    · exact ihr hr.1 h
    · exact ihs hr.2 h
  | times r min max greedy ih =>
    have hStep : ∀ p, ∀ q ∈ r.ends p, Reaches f p q := fun p q hq => ih hr hq
    cases max with
    | none =>
      cases min with
      | zero =>
        rcases mem_prefer h with rfl | h
        · exact .refl f q
        · exact reaches_of_mem_someRounds hStep h
      | succ min =>
        obtain ⟨m, hm, h⟩ := exists_of_mem_unionMap h
        exact (reaches_of_mem_power hStep hm).trans (reaches_of_mem_someRounds hStep h)
    | some max =>
      rw [ends] at h
      obtain ⟨m, hm, h⟩ := exists_of_mem_unionMap h
      exact (reaches_of_mem_power hStep hm).trans (reaches_of_mem_upTo hStep h)

/-- A word of the language consists of characters that the pattern consumes. -/
theorem Consumes.of_mem_language {r : Pattern} (hr : r.Consumes f) (h : r.isPlain) {w : Text}
    (hw : w ∈ r.language) : ∀ c ∈ w, f c := by
  obtain ⟨q, hq, hSpans⟩ := (reads_ends h).exists_spans (p := Place.start w) hw List.prefix_rfl
  obtain ⟨s, hRest, hAll⟩ := hr.reaches hq
  obtain rfl : w = s := List.append_cancel_right (hSpans.rest.symm.trans hRest)
  exact hAll

/-- Between the pieces there stood only what the pattern consumes. -/
theorem Consumes.loses_pieces {r : Pattern} (hr : r.Consumes f) (p : Place) (behindMatch : Bool) :
    Loses f p.rest (r.pieces p behindMatch).flatten := by
  fun_induction pieces r p behindMatch with
  | case1 p behindMatch hRest hMatch => rw [hRest]; exact .refl f []
  | case2 p behindMatch hRest hMatch => rw [hRest]; exact .refl f []
  | case3 p behindMatch c rest hRest hNone ih =>
    rw [hRest, flatten_consFirst]
    exact .cons c ih
  | case4 p behindMatch c rest hRest q hq hShorter ih =>
    obtain ⟨s, hs, hAll⟩ := hr.reaches (List.mem_of_head? hq)
    rw [hs]
    exact .append_left hAll ih
  | case5 p c rest hRest q hq hEmpty ih =>
    rw [hRest, flatten_consFirst]
    exact .cons c ih
  | case6 p behindMatch c rest hRest q hq hEmpty hBehind ih =>
    rw [hRest, List.flatten_cons, List.nil_append, flatten_consFirst]
    exact .cons c ih

theorem Consumes.loses_split {r : Pattern} (hr : r.Consumes f) (t : Text) :
    Loses f t (r.split t).flatten :=
  hr.loses_pieces (Place.start t) false

end Pattern

end Prose
