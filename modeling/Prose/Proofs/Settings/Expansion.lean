import Prose.Proofs.Text.Runs
import Prose.Settings.Expansion

/-!
# What a path expands to

`Reads ps t` reads the text `t` from left to right as the pieces `ps`: characters, pairs of dollar
signs and variables. Every text has a reading (`exists_reads`), and in any reading its variables are
replaced by what they stand for (`substitute?_eq_of_reads`). So a path expands to what `IsExpansion`
says of its pieces and the home directory, and to nothing else (`expand_eq_iff`).
-/

namespace Prose.Environment

/-- A piece of a path. A variable has braces around its name or not, and in braces it can have a
text for the case that it is unknown or empty. -/
inductive Piece
  | plain (c : Char)
  | dollar
  | bare (name : Text)
  | braced (name : Text)
  | orElse (name fallback : Text)
  deriving DecidableEq, Repr

namespace Piece

/-- How the piece is written. -/
def text : Piece → Text
  | .plain c => [c]
  | .dollar => ['$', '$']
  | .bare name => '$' :: name
  | .braced name => ['$', '\x7b'] ++ name ++ ['\x7d']
  | .orElse name fallback => ['$', '\x7b'] ++ name ++ [':', '-'] ++ fallback ++ ['\x7d']

/-- What the piece stands for, unless its variable is unknown. An empty variable in braces stands
for the way it is written. -/
def value? (env : Environment) : Piece → Option Text
  | .plain c => some [c]
  | .dollar => some ['$']
  | .bare name => env.lookup name
  | .braced name => (env.lookup name).map fun v => if v = [] then (braced name).text else v
  | .orElse name fallback => some (((env.lookup name).filter (· ≠ [])).getD fallback)

/-- What the pieces stand for one after the other, unless a variable is unknown. -/
def values? (env : Environment) : List Piece → Option Text
  | [] => some []
  | p :: ps => do return (← p.value? env) ++ (← values? env ps)

end Piece

open Piece (value? values?)

/-- Does a dollar sign in front of `t` stand for itself? -/
def IsLone (t : Text) : Prop :=
  (∀ c ∈ t.head?, c ≠ '$' ∧ isNamePart c = false) ∧
    ∀ u, t = '\x7b' :: u → '\x7d' ∉ u

/-- `Reads ps t`: from left to right the text `t` is the pieces `ps`. A name without braces is as
long as it can be, and braces end at the first closing one. What is in them is cut at the first
`:-`, unless no name would be left. -/
inductive Reads : List Piece → Text → Prop
  | nil : Reads [] []
  | plain {c : Char} {ps : List Piece} {t : Text} : c ≠ '$' → Reads ps t →
      Reads (.plain c :: ps) (c :: t)
  | lone {ps : List Piece} {t : Text} : IsLone t → Reads ps t → Reads (.plain '$' :: ps) ('$' :: t)
  | dollar {ps : List Piece} {t : Text} : Reads ps t → Reads (.dollar :: ps) ('$' :: '$' :: t)
  | bare {name : Text} {ps : List Piece} {t : Text} : name ≠ [] → (∀ c ∈ name, isNamePart c) →
      (∀ c ∈ t.head?, isNamePart c = false) → Reads ps t →
      Reads (.bare name :: ps) ((Piece.bare name).text ++ t)
  | braced {name : Text} {ps : List Piece} {t : Text} : '\x7d' ∉ name →
      (¬ [':', '-'] <:+: name ∨ [':', '-'] <+: name) → Reads ps t →
      Reads (.braced name :: ps) ((Piece.braced name).text ++ t)
  | orElse {name fallback : Text} {ps : List Piece} {t : Text} : name ≠ [] →
      '\x7d' ∉ name ++ fallback → ¬ [':', '-'] <:+: name → Reads ps t →
      Reads (.orElse name fallback :: ps) ((Piece.orElse name fallback).text ++ t)

/-! ### Braces -/

theorem splitFallback?_cons {c : Char} {t : Text} (h : ¬ [':', '-'] <+: c :: t) :
    splitFallback? (c :: t) =
      (splitFallback? t).map fun (name, fallback) => (c :: name, fallback) := by
  rw [splitFallback?]
  rintro rest rfl rfl
  exact h ⟨rest, rfl⟩

theorem splitFallback?_eq_none {t : Text} (h : ¬ [':', '-'] <:+: t) : splitFallback? t = none := by
  induction t with
  | nil => rfl
  | cons c t ih =>
    rw [List.infix_cons_iff, not_or] at h
    rw [splitFallback?_cons h.1, ih h.2]
    rfl

/-- A text is cut at the first place where it can be. -/
theorem splitFallback?_append {name : Text} (h : ¬ [':', '-'] <:+: name) (fallback : Text) :
    splitFallback? (name ++ [':', '-'] ++ fallback) = some (name, fallback) := by
  induction name with
  | nil => rfl
  | cons c name ih =>
    have hFirst : ¬ [':', '-'] <+: c :: (name ++ [':', '-'] ++ fallback) := by
      rintro ⟨rest, hRest⟩
      simp only [List.cons_append, List.nil_append, List.cons.injEq] at hRest
      obtain ⟨rfl, hRest⟩ := hRest
      cases name with
      | nil => cases (List.cons.inj hRest).1
      | cons d name =>
        obtain ⟨rfl, -⟩ := List.cons.inj hRest
        exact h ⟨[], name, rfl⟩
    rw [List.infix_cons_iff, not_or] at h
    rw [List.cons_append, List.cons_append, splitFallback?_cons hFirst, ih h.2]
    rfl

theorem exists_first_mark {t : Text} (h : [':', '-'] <:+: t) :
    ∃ name fallback, t = name ++ [':', '-'] ++ fallback ∧ ¬ [':', '-'] <:+: name := by
  induction t with
  | nil => simp at h
  | cons c t ih =>
    by_cases hFirst : [':', '-'] <+: c :: t
    · obtain ⟨fallback, hText⟩ := hFirst
      exact ⟨[], fallback, hText.symm, by simp⟩
    · obtain ⟨name, fallback, rfl, hName⟩ := ih ((List.infix_cons_iff.1 h).resolve_left hFirst)
      refine ⟨c :: name, fallback, rfl, fun hCons => ?_⟩
      rcases List.infix_cons_iff.1 hCons with hPrefix | hInfix
      · exact hFirst (hPrefix.trans ⟨[':', '-'] ++ fallback, by simp⟩)
      · exact hName hInfix

theorem braced?_eq {env : Environment} {name : Text}
    (h : ¬ [':', '-'] <:+: name ∨ [':', '-'] <+: name) :
    env.braced? name = (Piece.braced name).value? env := by
  have hSplit : splitFallback? name = none ∨ ∃ rest, splitFallback? name = some ([], rest) := by
    rcases h with hNone | ⟨rest, rfl⟩
    · exact .inl (splitFallback?_eq_none hNone)
    · exact .inr ⟨rest, rfl⟩
  rcases hSplit with hSplit | ⟨rest, hSplit⟩
  all_goals
    rw [braced?, hSplit, value?]
    dsimp only
    rcases env.lookup name with _ | _ | ⟨c, v⟩ <;> rfl

theorem braced?_append {env : Environment} {name : Text} (hNe : name ≠ [])
    (h : ¬ [':', '-'] <:+: name) (fallback : Text) :
    env.braced? (name ++ [':', '-'] ++ fallback) = (Piece.orElse name fallback).value? env := by
  obtain ⟨c, name, rfl⟩ := List.exists_cons_of_ne_nil hNe
  rw [braced?, splitFallback?_append h, value?]
  dsimp only
  rcases env.lookup (c :: name) with _ | _ | ⟨d, v⟩ <;> rfl

/-! ### Substitution -/

section

variable {env : Environment} {t : Text}

attribute [local simp] substitute?

theorem isNamePart_eq_false {c : Char} (h : c = '$' ∨ c = '\x7b') : isNamePart c = false := by
  have hTable : ∀ r ∈ Property.alphanumeric, 0x24 < r.1 ∧ (r.2 < 0x7B ∨ 0x7B < r.1) := by
    decide +kernel
  have hFree : Property.alphanumeric.contains c = false := by
    simp only [Ranges.contains, List.any_eq_false, Bool.and_eq_true, decide_eq_true_eq]
    intro r hr
    obtain ⟨hLow, hApart⟩ := hTable r hr
    rcases h with rfl | rfl
    · exact fun hIn => absurd hIn.1 (Nat.not_le.2 hLow)
    · rcases hApart with hApart | hApart
      · exact fun hIn => absurd hIn.2 (Nat.not_le.2 hApart)
      · exact fun hIn => absurd hIn.1 (Nat.not_le.2 hApart)
  rw [isNamePart, hFree, Bool.or_false, decide_eq_false_iff_not]
  rintro rfl
  exact absurd h (by decide)

theorem substitute?_plain {c : Char} (h : c ≠ '$') :
    env.substitute? (c :: t) = (env.substitute? t).map (c :: ·) := by
  rw [substitute?]
  all_goals
    intros
    contradiction

theorem substitute?_lone (h : IsLone t) :
    env.substitute? ('$' :: t) = (env.substitute? t).map ('$' :: ·) := by
  obtain ⟨hHead, hBrace⟩ := h
  cases t with
  | nil => simp
  | cons c t =>
    obtain ⟨hDollar, hName⟩ := hHead c rfl
    by_cases hc : c = '\x7b'
    · -- a brace that is never closed is taken over together with the dollar sign
      subst hc
      have hOpen : t.contains '\x7d' = false := by simpa using hBrace t rfl
      have hPlain : env.substitute? ('\x7b' :: t) = (env.substitute? t).map ('\x7b' :: ·) :=
        substitute?_plain (by decide)
      rw [substitute?, hOpen, hPlain, Option.map_map]
      rfl
    · rw [substitute?, if_neg (by simpa using hName)]
      · exact hDollar
      · exact hc

theorem substitute?_dollar :
    env.substitute? ('$' :: '$' :: t) = (env.substitute? t).map ('$' :: ·) := by
  simp

theorem substitute?_bare {name : Text} (hNe : name ≠ []) (hName : ∀ c ∈ name, isNamePart c)
    (hEnd : ∀ c ∈ t.head?, isNamePart c = false) : env.substitute? ((Piece.bare name).text ++ t) =
      do return (← env.lookup name) ++ (← env.substitute? t) := by
  obtain ⟨c, name, rfl⟩ := List.exists_cons_of_ne_nil hNe
  rw [List.forall_mem_cons] at hName
  have hMark : ¬ (c = '$' ∨ c = '\x7b') := by
    intro hc
    rw [isNamePart_eq_false hc] at hName
    cases hName.1
  rw [not_or] at hMark
  show env.substitute? ('$' :: c :: (name ++ t)) = _
  rw [substitute?, if_pos hName.1, takeWhile_append_of_head? hName.2 hEnd,
    dropWhile_append_of_head? hName.2 hEnd]
  · exact hMark.1
  · exact hMark.2

theorem substitute?_braces {inner : Text} (h : '\x7d' ∉ inner) :
    env.substitute? (['$', '\x7b'] ++ inner ++ ['\x7d'] ++ t) =
      do return (← env.braced? inner) ++ (← env.substitute? t) := by
  have hInner : ∀ c ∈ inner, decide (c ≠ '\x7d') := by
    intro c hc
    rw [decide_eq_true_eq]
    rintro rfl
    exact h hc
  have hText : ['$', '\x7b'] ++ inner ++ ['\x7d'] ++ t =
      '$' :: '\x7b' :: (inner ++ '\x7d' :: t) := by
    simp
  have hClosed : (inner ++ '\x7d' :: t).contains '\x7d' := by simp
  rw [hText, substitute?, if_pos hClosed, takeWhile_append_of_head? hInner (by simp),
    dropWhile_append_of_head? hInner (by simp), List.tail_cons]

theorem values?_cons_of_eq_singleton {p : Piece} {ps : List Piece} {c : Char}
    (h : p.value? env = some [c]) : values? env (p :: ps) = (values? env ps).map (c :: ·) := by
  rw [values?, h]
  cases values? env ps <;> rfl

/-- In every reading of a text the variables are replaced by what they stand for. -/
theorem substitute?_eq_of_reads {ps : List Piece} (h : Reads ps t) :
    env.substitute? t = values? env ps := by
  induction h with
  | nil => simp [values?]
  | plain hc _ ih => rw [substitute?_plain hc, ih, values?_cons_of_eq_singleton rfl]
  | lone hLone _ ih => rw [substitute?_lone hLone, ih, values?_cons_of_eq_singleton rfl]
  | dollar _ ih => rw [substitute?_dollar, ih, values?_cons_of_eq_singleton rfl]
  | bare hNe hName hEnd _ ih => rw [substitute?_bare hNe hName hEnd, ih, values?, value?]
  | braced hClosed hMark _ ih =>
    rw [Piece.text, substitute?_braces hClosed, ih, values?, braced?_eq hMark]
  | @orElse name fallback ps t hNe hClosed hMark _ ih =>
    have hText : (Piece.orElse name fallback).text ++ t =
        ['$', '\x7b'] ++ (name ++ [':', '-'] ++ fallback) ++ ['\x7d'] ++ t := by
      simp [Piece.text]
    rw [hText, substitute?_braces (by simpa using hClosed), ih, values?, braced?_append hNe hMark]

/-- Whatever stands in braces is a variable with or without a text for its place. -/
theorem exists_reads_braces {inner : Text} (hInner : '\x7d' ∉ inner) {ps : List Piece}
    (h : Reads ps t) : ∃ p, Reads (p :: ps) (['$', '\x7b'] ++ inner ++ ['\x7d'] ++ t) := by
  by_cases hMark : ¬ [':', '-'] <:+: inner ∨ [':', '-'] <+: inner
  · exact ⟨_, .braced hInner hMark h⟩
  · rw [not_or, not_not] at hMark
    obtain ⟨name, fallback, rfl, hName⟩ := exists_first_mark hMark.1
    have hNe : name ≠ [] := by
      rintro rfl
      exact hMark.2 ⟨fallback, rfl⟩
    have hReads := Reads.orElse hNe (by simpa using hInner) hName h
    exact ⟨_, by simpa [Piece.text] using hReads⟩

/-- A name without braces goes on for as long as it can. -/
theorem reads_bare_takeWhile {c : Char} (hc : isNamePart c) {ps : List Piece}
    (h : Reads ps (t.dropWhile isNamePart)) :
    Reads (.bare (c :: t.takeWhile isNamePart) :: ps) ('$' :: c :: t) := by
  have hName : ∀ d ∈ c :: t.takeWhile isNamePart, isNamePart d :=
    List.forall_mem_cons.2 ⟨hc, fun d => List.mem_takeWhile_imp⟩
  have hReads := Reads.bare (List.cons_ne_nil _ _) hName (fun d => of_mem_head?_dropWhile) h
  rwa [Piece.text, List.cons_append, List.cons_append, List.takeWhile_append_dropWhile] at hReads

/-- What a dollar sign begins can be read if what follows it can. -/
theorem exists_reads_dollar (h : ∀ u : Text, u.length ≤ t.length → ∃ ps, Reads ps u) :
    ∃ ps, Reads ps ('$' :: t) := by
  by_cases hDollar : t.head? = some '$'
  · obtain ⟨u, rfl⟩ := List.head?_eq_some_iff.1 hDollar
    obtain ⟨ps, hps⟩ := h u (by simp)
    exact ⟨_, .dollar hps⟩
  by_cases hName : ∃ c ∈ t.head?, isNamePart c
  · obtain ⟨c, hHead, hPart⟩ := hName
    obtain ⟨u, rfl⟩ := List.head?_eq_some_iff.1 hHead
    obtain ⟨ps, hps⟩ := h (u.dropWhile isNamePart)
      ((List.dropWhile_sublist _).length_le.trans (Nat.le_succ _))
    exact ⟨_, reads_bare_takeWhile hPart hps⟩
  by_cases hBrace : ∃ u, t = '\x7b' :: u ∧ '\x7d' ∈ u
  · obtain ⟨u, rfl, hClose⟩ := hBrace
    obtain ⟨inner, rest, rfl, hInner⟩ := List.eq_append_cons_of_mem hClose
    obtain ⟨ps, hps⟩ := h rest (by simp; omega)
    obtain ⟨p, hReads⟩ := exists_reads_braces hInner hps
    exact ⟨p :: ps, by simpa using hReads⟩
  · obtain ⟨ps, hps⟩ := h t le_rfl
    refine ⟨_, .lone ⟨fun c hc => ⟨?_, ?_⟩, fun u hu hClose => hBrace ⟨u, hu, hClose⟩⟩ hps⟩
    · rintro rfl
      exact hDollar hc
    · by_contra hPart
      exact hName ⟨c, hc, by simpa using hPart⟩

/-- Every text has a reading. -/
theorem exists_reads (t : Text) : ∃ ps, Reads ps t := by
  induction hLength : t.length using Nat.strongRecOn generalizing t with
  | ind n ih =>
    subst hLength
    cases t with
    | nil => exact ⟨[], .nil⟩
    | cons c t =>
      have hRest (u : Text) (hu : u.length ≤ t.length) : ∃ ps, Reads ps u :=
        ih u.length (Nat.lt_succ_of_le hu) u rfl
      by_cases hc : c = '$'
      · rw [hc]
        exact exists_reads_dollar hRest
      · obtain ⟨ps, hps⟩ := hRest t le_rfl
        exact ⟨_, .plain hc hps⟩

end

/-! ### Expansion -/

/-- Do a path and the text with the values of its variables both start with a tilde that is a whole
name? -/
def StartsAtHome (path t : Text) : Prop :=
  path.head? = some '~' ∧ ∃ rest, t = '~' :: rest ∧ (rest = [] ∨ rest.head? = some '/')

/-- `IsExpansion env home path t`: the path is expanded to `t`. A path with an unknown variable is
left as it is. In any other the variables get their values, and a tilde that stands for the home
directory is replaced by it. -/
inductive IsExpansion (env : Environment) (home : Option Text) (path : Text) : Text → Prop
  | unknown {ps : List Piece} : Reads ps path → values? env ps = none →
      IsExpansion env home path path
  | atHome {ps : List Piece} {t dir : Text} : Reads ps path → values? env ps = some t →
      StartsAtHome path t → home = some dir → IsExpansion env home path (dir ++ t.tail)
  | elsewhere {ps : List Piece} {t : Text} : Reads ps path → values? env ps = some t →
      (StartsAtHome path t → home = none) → IsExpansion env home path t

section

variable {env : Environment} {home : Option Text} {path t : Text} {ps : List Piece}

theorem expand_of_unknown (hReads : Reads ps path) (hValue : values? env ps = none) :
    env.expand home path = path := by
  rw [expand, substitute?_eq_of_reads hReads, hValue]

theorem expand_of_startsAtHome (hReads : Reads ps path) (hValue : values? env ps = some t)
    (h : StartsAtHome path t) : env.expand home path = home.elim t (· ++ t.tail) := by
  obtain ⟨hPath, rest, rfl, hRest⟩ := h
  have hWhole : rest.isEmpty || rest.head? = some '/' := by simpa using hRest
  have hTilde : expandHome home ('~' :: rest) = home.elim ('~' :: rest) (· ++ rest) := by
    simp only [expandHome, if_pos hWhole]
    cases home <;> rfl
  rw [expand, substitute?_eq_of_reads hReads, hValue, hPath]
  exact hTilde

theorem expand_of_not_startsAtHome (hReads : Reads ps path) (hValue : values? env ps = some t)
    (h : ¬ StartsAtHome path t) : env.expand home path = t := by
  rw [expand, substitute?_eq_of_reads hReads, hValue]
  dsimp only
  split
  next => rfl
  next hTilde =>
    unfold expandHome
    split
    next rest =>
      have hPath : path.head? = some '~' := by simpa using hTilde
      refine if_neg fun hWhole => h ⟨hPath, rest, rfl, by simpa using hWhole⟩
    next => rfl

theorem isExpansion_expand (env : Environment) (home : Option Text) (path : Text) :
    env.IsExpansion home path (env.expand home path) := by
  obtain ⟨ps, hReads⟩ := exists_reads path
  cases hValue : values? env ps with
  | none =>
    rw [expand_of_unknown hReads hValue]
    exact .unknown hReads hValue
  | some t =>
    by_cases h : StartsAtHome path t
    · rw [expand_of_startsAtHome hReads hValue h]
      cases home with
      | none => exact .elsewhere hReads hValue fun _ => rfl
      | some dir => exact .atHome hReads hValue h rfl
    · rw [expand_of_not_startsAtHome hReads hValue h]
      exact .elsewhere hReads hValue fun hHome => absurd hHome h

/-- The expansion of a path is the text that it is expanded to, and there is no other. -/
theorem expand_eq_iff : env.expand home path = t ↔ env.IsExpansion home path t := by
  constructor
  · rintro rfl
    exact isExpansion_expand env home path
  · intro h
    cases h with
    | unknown hReads hValue => exact expand_of_unknown hReads hValue
    | atHome hReads hValue hStart hHome =>
      rw [expand_of_startsAtHome hReads hValue hStart, hHome]
      rfl
    | elsewhere hReads hValue hHome =>
      by_cases hStart : StartsAtHome path t
      · rw [expand_of_startsAtHome hReads hValue hStart, hHome hStart]
        rfl
      · exact expand_of_not_startsAtHome hReads hValue hStart

end

end Prose.Environment
