import Prose.Proofs.Text.Joined

/-!
# Fields of joined texts

Reading the fields of a text undoes joining them, as long as no part is empty or holds a separator
(`fields_join`).
-/

namespace Prose.Text

variable {p : Char → Bool}

theorem fields_eq (p : Char → Bool) (t : Text) : fields p t =
    match t.dropWhile p with
    | [] => []
    | c :: rest => (c :: rest.takeWhile (!p ·)) :: fields p (rest.dropWhile (!p ·)) := by
  rw [fields]
  split
  next h => rw [h]
  next h => rw [h]

theorem fields_nil : fields p [] = [] :=
  fields_eq p []

theorem fields_cons {c : Char} (hc : p c) (t : Text) : fields p (c :: t) = fields p t := by
  rw [fields_eq, fields_eq p t, List.dropWhile_cons_of_pos hc]

/-- A part with a separator or nothing behind it is the first field. -/
theorem fields_append {part t : Text} (hNe : part ≠ []) (hPart : ∀ c ∈ part, p c = false)
    (ht : ∀ c ∈ t.head?, p c) : fields p (part ++ t) = part :: fields p t := by
  obtain ⟨c, cs, rfl⟩ := List.exists_cons_of_ne_nil hNe
  rw [List.forall_mem_cons] at hPart
  have hCs : ∀ d ∈ cs, !p d := by simpa using hPart.2
  have hStop : ∀ d ∈ t.head?, (!p d) = false := by simpa using ht
  rw [fields_eq, List.cons_append, List.dropWhile_cons_of_neg (by simp [hPart.1])]
  simp only [takeWhile_append_of_head? hCs hStop, dropWhile_append_of_head? hCs hStop]

theorem fields_join {c : Char} (hc : p c) {parts : List Text} (hNe : ∀ part ∈ parts, part ≠ [])
    (hParts : ∀ part ∈ parts, ∀ d ∈ part, p d = false) : fields p (join [c] parts) = parts := by
  induction parts with
  | nil => exact fields_nil
  | cons part parts ih =>
    rw [List.forall_mem_cons] at hNe hParts
    cases parts with
    | nil =>
      have hField := fields_append (t := []) hNe.1 hParts.1 (by simp)
      rw [join_singleton]
      rwa [List.append_nil, fields_nil] at hField
    | cons part' parts =>
      rw [join_cons_cons, List.append_assoc, List.singleton_append,
        fields_append hNe.1 hParts.1 (by simpa using hc), fields_cons hc, ih hNe.2 hParts.2]

end Prose.Text
