import Prose.Proofs.Text.Trimming

/-!
# Joined texts

Where the characters of a joined text come from, what is left of it without the separators, how it
begins and ends, and why it has no blanks at its ends when its parts have none.
-/

namespace Prose.Text

theorem join_singleton (sep part : Text) : join sep [part] = part :=
  List.intercalate_singleton

theorem join_cons_cons (sep part part' : Text) (parts : List Text) :
    join sep (part :: part' :: parts) = part ++ sep ++ join sep (part' :: parts) :=
  List.intercalate_cons_cons

theorem head?_join_of_ne_nil {sep part : Text} {parts : List Text} (h : part ≠ []) :
    (join sep (part :: parts)).head? = part.head? := by
  cases parts with
  | nil => rw [join_singleton]
  | cons part' parts =>
    rw [join_cons_cons, List.append_assoc, List.head?_append, List.head?_eq_some_head h,
      Option.some_or]

theorem mem_join {sep : Text} {parts : List Text} {c : Char} (h : c ∈ join sep parts) :
    c ∈ sep ∨ ∃ part ∈ parts, c ∈ part := by
  induction parts with
  | nil => cases h
  | cons part parts ih =>
    cases parts with
    | nil =>
      rw [join_singleton] at h
      exact .inr ⟨part, by simp, h⟩
    | cons part' parts =>
      rw [join_cons_cons, List.mem_append, List.mem_append] at h
      rcases h with (h | h) | h
      · exact .inr ⟨part, by simp, h⟩
      · exact .inl h
      · refine (ih h).imp_right ?_
        rintro ⟨part'', hMem, h⟩
        exact ⟨part'', List.mem_cons_of_mem _ hMem, h⟩

/-- What keeps no character of the separator keeps those of the parts. -/
theorem filter_join {p : Char → Bool} {sep : Text} (h : ∀ c ∈ sep, p c = false)
    (parts : List Text) : (join sep parts).filter p = parts.flatMap (·.filter p) := by
  have hSep : sep.filter p = [] := List.filter_eq_nil_iff.2 fun c hc => by simp [h c hc]
  induction parts with
  | nil => rfl
  | cons part parts ih =>
    cases parts with
    | nil => rw [join_singleton, List.flatMap_singleton]
    | cons part' parts =>
      rw [join_cons_cons, List.filter_append, List.filter_append, hSep, List.append_nil, ih]
      rfl

/-- A joined text ends like one of its parts. -/
theorem exists_getLast?_join (sep : Text) {parts : List Text} (hNe : parts ≠ [])
    (hParts : ∀ part ∈ parts, part ≠ []) :
    ∃ part ∈ parts, (join sep parts).getLast? = part.getLast? := by
  induction parts with
  | nil => exact absurd rfl hNe
  | cons part parts ih =>
    rw [List.forall_mem_cons] at hParts
    cases parts with
    | nil => exact ⟨part, by simp, by rw [join_singleton]⟩
    | cons part' parts =>
      obtain ⟨part'', hMem, hLast⟩ := ih (by simp) hParts.2
      refine ⟨part'', List.mem_cons_of_mem _ hMem, ?_⟩
      rw [join_cons_cons, List.getLast?_append, hLast,
        List.getLast?_eq_some_getLast (hParts.2 part'' hMem), Option.some_or]

/-- One space before a text that does not start with a space makes no two in a row. -/
theorem not_two_spaces_append {part t : Text} (hPart : ' ' ∉ part) (hHead : t.head? ≠ some ' ')
    (ht : ¬ [' ', ' '] <:+: t) : ¬ [' ', ' '] <:+: part ++ ' ' :: t := by
  induction part with
  | nil =>
    rw [List.nil_append, List.infix_cons_iff]
    rintro (hPrefix | hInfix)
    · obtain ⟨rest, hRest⟩ := (List.prefix_cons_inj ' ').1 hPrefix
      exact hHead (by rw [← hRest]; rfl)
    · exact ht hInfix
  | cons c part ih =>
    rw [List.mem_cons, not_or] at hPart
    rw [List.cons_append, List.infix_cons_iff]
    rintro (hPrefix | hInfix)
    · exact hPart.1 (List.cons_prefix_cons.1 hPrefix).1
    · exact ih hPart.2 hInfix

theorem isTrimmed_join (sep : Text) {parts : List Text} (hNe : parts ≠ [])
    (h : ∀ part ∈ parts, IsTrimmed part) : IsTrimmed (join sep parts) := by
  obtain ⟨part, rest, rfl⟩ := List.exists_cons_of_ne_nil hNe
  have hFirst : IsTrimmed part := h part (List.mem_cons_self ..)
  have hHead : (join sep (part :: rest)).head? = part.head? := head?_join_of_ne_nil hFirst.ne_nil
  obtain ⟨last, hMem, hLast⟩ := exists_getLast?_join sep hNe fun p hp => (h p hp).ne_nil
  refine ⟨?_, ?_, ?_⟩
  · intro hNil
    rw [hNil] at hHead
    exact hFirst.ne_nil (List.head?_eq_none_iff.1 hHead.symm)
  · rw [hHead]
    exact hFirst.head
  · rw [hLast]
    exact (h last hMem).last

end Prose.Text
