import Mathlib
import Prose.Proofs.Pattern.Split

/-!
# The language of a pattern

A pattern without assertions is an expression of a regular language, and `Pattern.language` is what
it denotes. `reads_ends` says that the matcher is right about it: the matches that start at a place
cover the words of the language that stand there, each of them and nothing else. Which match comes
first is left open, and so is how often a repetition goes round without consuming anything.
-/

namespace Prose

open scoped Computability

namespace Place

/-- The text `w` stands between the places `p` and `q`. -/
structure Spans (p : Place) (w : Text) (q : Place) : Prop where
  rest : p.rest = w ++ q.rest
  index : q.index = p.index + w.length

theorem Spans.refl (p : Place) : p.Spans [] p :=
  ⟨rfl, rfl⟩

theorem Spans.trans {p q r : Place} {v w : Text} (h : p.Spans v q) (g : q.Spans w r) :
    p.Spans (v ++ w) r := by
  refine ⟨?_, ?_⟩
  · rw [h.rest, g.rest, List.append_assoc]
  · rw [g.index, h.index, List.length_append, Nat.add_assoc]

/-- The text between two places is known from where they stand. -/
theorem Spans.eq_of_index {p q : Place} {v w : Text} (h : p.Spans v q) (g : w <+: p.rest)
    (hIndex : q.index = p.index + w.length) : v = w := by
  obtain ⟨rest, hRest⟩ := g
  have hLength : v.length = w.length := by
    have := h.index
    omega
  exact (List.append_inj (h.rest.symm.trans hRest.symm) hLength).1

/-! ### Unions up to the index -/

theorem exists_index_union {ps qs : List Place} {q : Place} (h : q ∈ ps ∨ q ∈ qs) :
    ∃ q' ∈ union ps qs, q'.index = q.index := by
  cases qs with
  | nil =>
    rcases h with h | h
    · exact ⟨q, h, rfl⟩
    · cases h
  | cons r rs =>
    by_cases hListed : ∃ q' ∈ ps, q'.index = q.index
    · obtain ⟨q', hq', hIndex⟩ := hListed
      exact ⟨q', List.mem_append_left _ hq', hIndex⟩
    · have hMem : q ∈ r :: rs := h.resolve_left fun hq => hListed ⟨q, hq, rfl⟩
      refine ⟨q, List.mem_append_right _ (List.mem_filter.2 ⟨hMem, ?_⟩), rfl⟩
      simpa using hListed

theorem exists_index_unionMap {f : Place → List Place} {ps : List Place} {p q : Place}
    (hp : p ∈ ps) (hq : q ∈ f p) : ∃ q' ∈ unionMap f ps, q'.index = q.index := by
  induction ps with
  | nil => cases hp
  | cons r ps ih =>
    rcases List.mem_cons.1 hp with rfl | hp
    · exact exists_index_union (.inl hq)
    · obtain ⟨q', hq', hIndex⟩ := ih hp
      rw [← hIndex]
      exact exists_index_union (.inr hq')

end Place

namespace Pattern

open Place

theorem exists_index_prefer (greedy : Bool) {more : List Place} {p q : Place}
    (h : q = p ∨ q ∈ more) : ∃ q' ∈ prefer greedy more p, q'.index = q.index := by
  have h : q ∈ [p] ∨ q ∈ more := h.imp_left List.mem_singleton.2
  cases greedy with
  | true => exact exists_index_union h.symm
  | false => exact exists_index_union h

/-! ### Steps over the words of a language -/

/-- The steps from a place are those over the words of `L` that stand there. -/
structure Reads (step : Place → List Place) (L : Language Char) : Prop where
  sound : ∀ {p q}, q ∈ step p → ∃ w ∈ L, p.Spans w q
  complete : ∀ {p w}, w ∈ L → w <+: p.rest → ∃ q ∈ step p, q.index = p.index + w.length

namespace Reads

variable {step step' : Place → List Place} {L M : Language Char}

theorem exists_spans (h : Reads step L) {p : Place} {w : Text} (hw : w ∈ L) (hp : w <+: p.rest) :
    ∃ q ∈ step p, p.Spans w q := by
  obtain ⟨q, hq, hIndex⟩ := h.complete hw hp
  obtain ⟨v, -, hSpans⟩ := h.sound hq
  obtain rfl : v = w := hSpans.eq_of_index hp hIndex
  exact ⟨q, hq, hSpans⟩

theorem stay : Reads (fun p => [p]) 1 := by
  refine ⟨fun {p q} hq => ?_, fun {p w} hw _ => ?_⟩
  · obtain rfl := List.mem_singleton.1 hq
    exact ⟨[], rfl, .refl q⟩
  · obtain rfl : w = [] := hw
    exact ⟨p, List.mem_singleton_self p, rfl⟩

theorem union (h : Reads step L) (g : Reads step' M) :
    Reads (fun p => Place.union (step p) (step' p)) (L + M) := by
  refine ⟨fun {p q} hq => ?_, fun {p w} hw hp => ?_⟩
  · rcases mem_union hq with hq | hq
    · obtain ⟨w, hw, hSpans⟩ := h.sound hq
      exact ⟨w, .inl hw, hSpans⟩
    · obtain ⟨w, hw, hSpans⟩ := g.sound hq
      exact ⟨w, .inr hw, hSpans⟩
  · rcases hw with hw | hw
    · obtain ⟨q, hq, hIndex⟩ := h.complete hw hp
      rw [← hIndex]
      exact exists_index_union (.inl hq)
    · obtain ⟨q, hq, hIndex⟩ := g.complete hw hp
      rw [← hIndex]
      exact exists_index_union (.inr hq)

theorem unionMap (h : Reads step L) (g : Reads step' M) :
    Reads (fun p => Place.unionMap step' (step p)) (L * M) := by
  refine ⟨fun {p q} hq => ?_, fun {p w} hw hp => ?_⟩
  · obtain ⟨m, hm, hq⟩ := exists_of_mem_unionMap hq
    obtain ⟨v, hv, hSpans⟩ := h.sound hm
    obtain ⟨w, hw, hSpans'⟩ := g.sound hq
    exact ⟨v ++ w, Language.append_mem_mul hv hw, hSpans.trans hSpans'⟩
  · obtain ⟨v, hv, u, hu, rfl⟩ := hw
    obtain ⟨m, hm, hSpans⟩ := h.exists_spans hv ((List.prefix_append v u).trans hp)
    have hRest : u <+: m.rest := by
      rwa [hSpans.rest, List.prefix_append_right_inj] at hp
    obtain ⟨q, hq, hIndex⟩ := g.complete hu hRest
    have hSum : q.index = p.index + (v ++ u).length := by
      rw [hIndex, hSpans.index, List.length_append, Nat.add_assoc]
    rw [← hSum]
    exact exists_index_unionMap hm hq

theorem prefer (h : Reads step L) (greedy : Bool) :
    Reads (fun p => Pattern.prefer greedy (step p) p) (L + 1) := by
  cases greedy with
  | true => exact h.union stay
  | false =>
    rw [add_comm]
    exact stay.union h

/-! ### Rounds -/

theorem power (h : Reads step L) (n : Nat) : Reads (power step n) (L ^ n) := by
  induction n with
  | zero => exact stay
  | succ n ih =>
    rw [pow_succ']
    exact h.unionMap ih

theorem upTo (h : Reads step L) (greedy : Bool) (n : Nat) :
    Reads (upTo step greedy n) (∑ i ∈ Finset.range (n + 1), L ^ i) := by
  induction n with
  | zero =>
    rw [Finset.sum_range_one, pow_zero]
    exact stay
  | succ n ih =>
    rw [geom_sum_succ]
    exact (h.unionMap ih).prefer greedy

theorem sound_moreRounds (h : Reads step L) {greedy : Bool} {n : Nat} {p q : Place}
    (hq : q ∈ moreRounds step greedy n p) : ∃ w ∈ L∗, p.Spans w q := by
  induction n generalizing p with
  | zero =>
    obtain rfl := List.mem_singleton.1 hq
    exact ⟨[], Language.nil_mem_kstar L, .refl q⟩
  | succ n ih =>
    rcases mem_prefer hq with rfl | hq
    · exact ⟨[], Language.nil_mem_kstar L, .refl q⟩
    · obtain ⟨m, hm, hq⟩ := exists_of_mem_unionMap hq
      split at hq
      · cases hq
      · obtain ⟨v, hv, hSpans⟩ := h.sound hm
        obtain ⟨w, hw, hSpans'⟩ := ih hq
        have hStar : v ++ w ∈ L∗ := Set.mem_of_mem_of_subset (Language.append_mem_mul hv hw)
          (mul_kstar_le_kstar (a := L))
        exact ⟨v ++ w, hStar, hSpans.trans hSpans'⟩

/-- Rounds over words that are not empty, as many as there are. -/
theorem complete_moreRounds (h : Reads step L) (greedy : Bool) {ws : List Text}
    (hWords : ∀ w ∈ ws, w ∈ L ∧ w ≠ []) {n : Nat} (hFuel : ws.flatten.length ≤ n) {p : Place}
    (hp : ws.flatten <+: p.rest) :
    ∃ q ∈ moreRounds step greedy n p, q.index = p.index + ws.flatten.length := by
  induction ws generalizing n p with
  | nil =>
    cases n with
    | zero => exact ⟨p, List.mem_singleton_self p, rfl⟩
    | succ n => exact exists_index_prefer greedy (.inl rfl)
  | cons w ws ih =>
    obtain ⟨⟨hw, hNe⟩, hWords⟩ := List.forall_mem_cons.1 hWords
    have hFirst : 0 < w.length := List.length_pos_of_ne_nil hNe
    rw [List.flatten_cons] at hp hFuel ⊢
    rw [List.length_append] at hFuel ⊢
    cases n with
    | zero => omega
    | succ n =>
      obtain ⟨m, hm, hSpans⟩ := h.exists_spans hw ((List.prefix_append _ _).trans hp)
      have hRest : ws.flatten <+: m.rest := by
        rwa [hSpans.rest, List.prefix_append_right_inj] at hp
      obtain ⟨q, hq, hIndex⟩ := ih hWords (n := n) (by omega) hRest
      -- the round is not empty, so it counts
      have hMoved : m.index ≠ p.index := by
        rw [hSpans.index]
        omega
      obtain ⟨q', hq', hIndex'⟩ : ∃ q' ∈ Place.unionMap (fun m =>
          if m.index = p.index then [] else moreRounds step greedy n m) (step p),
          q'.index = q.index := exists_index_unionMap hm (by rwa [if_neg hMoved])
      obtain ⟨q'', hq'', hIndex''⟩ := exists_index_prefer greedy (p := p) (.inr hq')
      refine ⟨q'', hq'', ?_⟩
      rw [hIndex'', hIndex', hIndex, hSpans.index, Nat.add_assoc]

theorem someRounds (h : Reads step L) (greedy : Bool) :
    Reads (someRounds step greedy) (L * L∗) := by
  refine ⟨fun {p q} hq => ?_, fun {p w} hw hp => ?_⟩
  · obtain ⟨m, hm, hq⟩ := exists_of_mem_unionMap hq
    obtain ⟨v, hv, hSpans⟩ := h.sound hm
    split at hq
    · obtain rfl := List.mem_singleton.1 hq
      exact ⟨v, ⟨v, hv, [], Language.nil_mem_kstar L, List.append_nil v⟩, hSpans⟩
    · obtain ⟨u, hu, hSpans'⟩ := h.sound_moreRounds hq
      exact ⟨v ++ u, Language.append_mem_mul hv hu, hSpans.trans hSpans'⟩
  · by_cases hEmpty : w = []
    · -- one empty round
      subst hEmpty
      obtain ⟨v, hv, u, -, hNil⟩ := hw
      obtain ⟨rfl, -⟩ := List.append_eq_nil_iff.1 hNil
      obtain ⟨q, hq, hIndex⟩ := h.complete hv hp
      have hSame : q.index = p.index := hIndex
      rw [← hIndex]
      exact exists_index_unionMap hq (by rw [if_pos hSame]; exact List.mem_singleton_self q)
    · have hStar : w ∈ L∗ := Set.mem_of_mem_of_subset hw (mul_kstar_le_kstar (a := L))
      obtain ⟨ws, rfl, hWords⟩ := Language.mem_kstar_iff_exists_nonempty.1 hStar
      cases ws with
      | nil => exact absurd rfl hEmpty
      | cons w ws =>
        obtain ⟨⟨hw, hNe⟩, hWords⟩ := List.forall_mem_cons.1 hWords
        have hFirst : 0 < w.length := List.length_pos_of_ne_nil hNe
        rw [List.flatten_cons] at hp ⊢
        obtain ⟨m, hm, hSpans⟩ := h.exists_spans hw ((List.prefix_append _ _).trans hp)
        have hRest : ws.flatten <+: m.rest := by
          rwa [hSpans.rest, List.prefix_append_right_inj] at hp
        have hMoved : m.index ≠ p.index := by
          rw [hSpans.index]
          omega
        obtain ⟨q, hq, hIndex⟩ := h.complete_moreRounds greedy hWords hRest.length_le hRest
        have hSum : q.index = p.index + (w ++ ws.flatten).length := by
          rw [hIndex, hSpans.index, List.length_append, Nat.add_assoc]
        rw [← hSum]
        exact exists_index_unionMap hm (by rwa [if_neg hMoved])

end Reads

/-! ### Patterns -/

/-- Is the pattern without assertions? -/
def isPlain : Pattern → Bool
  | .empty => true
  | .one _ => true
  | .look _ => false
  | .cat r s => isPlain r && isPlain s
  | .alt r s => isPlain r && isPlain s
  | .times r _ _ _ => isPlain r

/-- What a pattern without assertions denotes. -/
def language : Pattern → Language Char
  | .empty => 1
  | .one accepts => { w | ∃ c, accepts c ∧ w = [c] }
  | .look _ => 0
  | .cat r s => language r * language s
  | .alt r s => language r + language s
  | .times r min none _ => language r ^ min * (language r)∗
  | .times r min (some max) _ =>
    language r ^ min * ∑ i ∈ Finset.range (max - min + 1), language r ^ i

/-! ### Repetitions of a character -/

section One

variable {accepts : Char → Bool} {w : Text}

theorem mem_language_one : w ∈ (one accepts).language ↔ ∃ c, accepts c ∧ w = [c] :=
  Iff.rfl

theorem mem_language_one_pow {n : Nat} :
    w ∈ (one accepts).language ^ n ↔ w.length = n ∧ ∀ c ∈ w, accepts c := by
  induction n generalizing w with
  | zero =>
    rw [pow_zero, Language.mem_one, List.length_eq_zero_iff]
    constructor
    · rintro rfl
      simp
    · exact And.left
  | succ n ih =>
    rw [pow_succ', Language.mem_mul]
    constructor
    · rintro ⟨-, ⟨c, hAccepts, rfl⟩, u, hu, rfl⟩
      obtain ⟨hLength, hAll⟩ := ih.1 hu
      exact ⟨by simp [hLength], by simpa [hAccepts] using hAll⟩
    · rintro ⟨hLength, hAll⟩
      obtain ⟨c, u, rfl⟩ := List.exists_cons_of_length_eq_add_one hLength
      rw [List.forall_mem_cons] at hAll
      exact ⟨[c], ⟨c, hAll.1, rfl⟩, u, ih.2 ⟨Nat.succ.inj hLength, hAll.2⟩, rfl⟩

/-- A character at least `n` times. -/
theorem mem_language_times_one {n : Nat} {greedy : Bool} :
    w ∈ (times (one accepts) n none greedy).language ↔ n ≤ w.length ∧ ∀ c ∈ w, accepts c := by
  have hAll : w ∈ (one accepts).language ^ n * (one accepts).language∗ ↔
      ∃ k, w ∈ (one accepts).language ^ (n + k) := by
    rw [Language.kstar_eq_iSup_pow, Language.mul_iSup, Language.mem_iSup]
    simp only [pow_add]
  rw [language, hAll]
  constructor
  · rintro ⟨k, hw⟩
    obtain ⟨hLength, hAll⟩ := mem_language_one_pow.1 hw
    exact ⟨by omega, hAll⟩
  · rintro ⟨hLength, hAll⟩
    exact ⟨w.length - n, mem_language_one_pow.2 ⟨by omega, hAll⟩⟩

theorem mem_language_optional_one {greedy : Bool} :
    w ∈ (times (one accepts) 0 (some 1) greedy).language ↔
      w = [] ∨ ∃ c, accepts c ∧ w = [c] := by
  show w ∈ (one accepts).language ^ 0 * ∑ i ∈ Finset.range 2, (one accepts).language ^ i ↔ _
  rw [pow_zero, one_mul, Finset.sum_range_succ, Finset.sum_range_one, pow_zero, pow_one]
  rfl

end One

/-! ### The matcher and the language -/

theorem reads_one (accepts : Char → Bool) : Reads (one accepts).ends (one accepts).language := by
  refine ⟨fun {p q} hq => ?_, fun {p w} hw hp => ?_⟩
  · obtain ⟨c, rest, hRest, hAccepts, rfl⟩ := mem_ends_one hq
    exact ⟨[c], ⟨c, hAccepts, rfl⟩, hRest, rfl⟩
  · obtain ⟨c, hAccepts, rfl⟩ := hw
    obtain ⟨rest, hRest⟩ := hp
    refine ⟨p.after c rest, ?_, rfl⟩
    rw [ends, ← hRest, List.singleton_append]
    simp [hAccepts]

/-- The matches of a pattern without assertions are the words of its language. -/
theorem reads_ends {r : Pattern} (h : r.isPlain) : Reads r.ends r.language := by
  induction r with
  | empty => exact .stay
  | one accepts => exact reads_one accepts
  | look holds => cases h
  | cat r s ihr ihs =>
    rw [isPlain, Bool.and_eq_true] at h
    exact (ihr h.1).unionMap (ihs h.2)
  | alt r s ihr ihs =>
    rw [isPlain, Bool.and_eq_true] at h
    exact (ihr h.1).union (ihs h.2)
  | times r min max greedy ih =>
    have hRound := ih h
    cases max with
    | none =>
      cases min with
      | zero =>
        have hSome := (hRound.someRounds greedy).prefer greedy
        rw [add_comm, Language.one_add_self_mul_kstar_eq_kstar] at hSome
        show Reads _ (r.language ^ 0 * r.language∗)
        rwa [pow_zero, one_mul]
      | succ min =>
        have hAll := (hRound.power min).unionMap (hRound.someRounds greedy)
        rwa [← mul_assoc, ← pow_succ] at hAll
    | some max =>
      have hEnds : (times r min (some max) greedy).ends =
          fun p => unionMap (upTo r.ends greedy (max - min)) (power r.ends min p) := by
        funext p
        rw [ends]
      rw [hEnds]
      exact (hRound.power min).unionMap (hRound.upTo greedy (max - min))

/-! ### Matches -/

/-- Does a match cover all of the text? -/
def matchesAll (r : Pattern) (t : Text) : Bool :=
  (r.ends (Place.start t)).any (·.rest.isEmpty)

theorem matchesAll_iff_mem_language {r : Pattern} (h : r.isPlain) (t : Text) :
    r.matchesAll t ↔ t ∈ r.language := by
  rw [matchesAll, List.any_eq_true]
  constructor
  · rintro ⟨q, hq, hEnd⟩
    obtain ⟨w, hw, hSpans⟩ := (reads_ends h).sound hq
    have hText : t = w := by
      have hRest : t = w ++ q.rest := hSpans.rest
      rwa [List.isEmpty_iff.1 hEnd, List.append_nil] at hRest
    rwa [hText]
  · intro ht
    obtain ⟨q, hq, hSpans⟩ := (reads_ends h).exists_spans (p := start t) ht List.prefix_rfl
    have hRest : t = t ++ q.rest := hSpans.rest
    exact ⟨q, hq, List.isEmpty_iff.2 (List.append_right_eq_self.1 hRest.symm)⟩

theorem exists_spans_of_matchEnd? {r : Pattern} (h : r.isPlain) {p q : Place}
    (hq : r.matchEnd? p = some q) : ∃ w ∈ r.language, p.Spans w q :=
  (reads_ends h).sound (List.mem_of_head? hq)

/-- Where there is no match, no word of the language stands. -/
theorem not_prefix_of_matchEnd?_eq_none {r : Pattern} (h : r.isPlain) {p : Place}
    (hNone : r.matchEnd? p = none) {w : Text} (hw : w ∈ r.language) : ¬ w <+: p.rest := by
  intro hp
  obtain ⟨q, hq, -⟩ := (reads_ends h).complete hw hp
  rw [matchEnd?, List.head?_eq_none_iff] at hNone
  rw [hNone] at hq
  cases hq

end Pattern

end Prose
