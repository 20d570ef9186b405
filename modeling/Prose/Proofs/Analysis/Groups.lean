import Mathlib
import Prose.Analysis.Vocabulary

/-!
# Sentences by paragraph

The analyses go by depth: `groups` has the nodes two levels below the root, grouped by the nodes
above them, and `ofGroups` puts them below paragraphs of a new document. To leave out the short
sentences is to thin the groups (`dropShortSentences_eq_ofGroups`), whatever nodes stand at these
places, so one bound after another comes to the greater of them
(`dropShortSentences_max_and_sentences`).
-/

namespace Prose

/-! ### Groups -/

section

variable {α : Type}

/-- The members that satisfy `p`, in their groups; groups without such a member are left out. -/
def thin (p : α → Bool) (gs : List (List α)) : List (List α) :=
  (gs.map (·.filter p)).filter (!·.isEmpty)

theorem nil_not_mem_thin (p : α → Bool) (gs : List (List α)) : [] ∉ thin p gs := by
  intro h
  cases (List.mem_filter.1 h).2

theorem flatten_thin (p : α → Bool) (gs : List (List α)) :
    (thin p gs).flatten = gs.flatten.filter p := by
  rw [thin, List.flatten_filter_not_isEmpty, List.filter_flatten]

theorem thin_cons (p : α → Bool) (g : List α) (gs : List (List α)) :
    thin p (g :: gs) = [g.filter p].filter (!·.isEmpty) ++ thin p gs := by
  rw [thin, List.map_cons, ← List.singleton_append, List.filter_append]
  rfl

/-- Empty groups do not count. -/
theorem thin_filter_not_isEmpty (p : α → Bool) (gs : List (List α)) :
    thin p (gs.filter (!·.isEmpty)) = thin p gs := by
  induction gs with
  | nil => rfl
  | cons g gs ih =>
    cases g with
    | nil => exact ih
    | cons a g => rw [List.filter_cons_of_pos rfl, thin_cons, thin_cons, ih]

theorem thin_thin (p q : α → Bool) (gs : List (List α)) :
    thin p (thin q gs) = thin (fun a => p a && q a) gs := by
  have hTwice : ((gs.map (·.filter q)).map (·.filter p)) =
      gs.map (·.filter fun a => p a && q a) := by
    rw [List.map_map]
    exact List.map_congr_left fun g _ => List.filter_filter
  calc thin p (thin q gs)
    _ = thin p (gs.map (·.filter q)) := thin_filter_not_isEmpty p _
    _ = thin (fun a => p a && q a) gs := by rw [thin, hTwice, thin]

/-- Members can be replaced before or after. -/
theorem thin_map {β : Type} (p : β → Bool) (f : α → β) (gs : List (List α)) :
    thin p (gs.map (·.map f)) = (thin (p ∘ f) gs).map (·.map f) := by
  have hMembers : (gs.map (·.map f)).map (·.filter p) =
      (gs.map (·.filter (p ∘ f))).map (·.map f) := by
    rw [List.map_map, List.map_map]
    exact List.map_congr_left fun g _ => List.filter_map
  have hEmpty : (fun g : List β => !g.isEmpty) ∘ (·.map f) = fun g : List α => !g.isEmpty :=
    funext fun g => congrArg not List.isEmpty_map
  rw [thin, hMembers, List.filter_map, hEmpty, thin]

end

namespace Node

/-- The children of the children of the root, grouped by their parents. -/
def groups (t : Node) : List (List Node) :=
  t.children.map children

/-- A document with the given sentences in its paragraphs. -/
def ofGroups (gs : List (List Node)) : Node :=
  .composite .document (gs.map (.composite .paragraph))

@[simp] theorem groups_ofGroups (gs : List (List Node)) : (ofGroups gs).groups = gs := by
  show (gs.map (composite .paragraph)).map children = gs
  rw [List.map_map]
  exact List.map_id gs

theorem sentences_eq_flatten_groups (t : Node) : t.sentences = t.groups.flatten := by
  rw [sentences, List.flatMap_def, groups]

/-! ### Sentences with enough words -/

/-- Has the sentence at least `least` words? -/
def hasWords (least : Nat) (sentence : Node) : Bool :=
  least ≤ sentence.words.length

theorem dropShortSentences_eq_ofGroups (least : Nat) (t : Node) :
    t.dropShortSentences least = ofGroups (thin (hasWords least) t.groups) := by
  rw [dropShortSentences, ofGroups, groups]
  congr 1
  induction t.children with
  | nil => rfl
  | cons paragraph paragraphs ih =>
    have hKept : (paragraph.children.filter fun s => least ≤ s.words.length) =
        paragraph.children.filter (hasWords least) := rfl
    rw [List.filterMap_cons, ih, List.map_cons, thin_cons, hKept]
    cases paragraph.children.filter (hasWords least) with
    | nil => rfl
    | cons s kept => rfl

theorem groups_dropShortSentences (least : Nat) (t : Node) :
    (t.dropShortSentences least).groups = thin (hasWords least) t.groups := by
  rw [dropShortSentences_eq_ofGroups, groups_ofGroups]

theorem hasWords_max (a b : Nat) (sentence : Node) :
    hasWords (max a b) sentence = (hasWords b sentence && hasWords a sentence) := by
  simp only [hasWords, max_le_iff, Bool.decide_and, Bool.and_comm]

theorem dropShortSentences_dropShortSentences (a b : Nat) (t : Node) :
    (t.dropShortSentences a).dropShortSentences b = t.dropShortSentences (max a b) := by
  have hBoth : hasWords (max a b) = fun s => hasWords b s && hasWords a s :=
    funext (hasWords_max a b)
  rw [dropShortSentences_eq_ofGroups, groups_dropShortSentences, thin_thin,
    dropShortSentences_eq_ofGroups, hBoth]

theorem sentences_dropShortSentences (least : Nat) (t : Node) :
    (t.dropShortSentences least).sentences = t.sentences.filter (hasWords least) := by
  rw [sentences_eq_flatten_groups, groups_dropShortSentences, flatten_thin,
    sentences_eq_flatten_groups]

/-- One bound after another comes to the greater of them. The result for one bound is a document of
the sentences with at least so many words, in their order and in the paragraphs where they stood,
and none of its paragraphs is empty. -/
theorem dropShortSentences_max_and_sentences (t : Node) :
    (∀ a b, (t.dropShortSentences a).dropShortSentences b = t.dropShortSentences (max a b)) ∧
    ∀ n,
      t.dropShortSentences n = ofGroups
        ((t.groups.map (·.filter fun s => n ≤ s.words.length)).filter (!·.isEmpty)) ∧
      (t.dropShortSentences n).sentences = t.sentences.filter (fun s => n ≤ s.words.length) ∧
      [] ∉ (t.dropShortSentences n).groups := by
  refine ⟨fun a b => dropShortSentences_dropShortSentences a b t, fun n => ⟨?_, ?_, ?_⟩⟩
  · exact dropShortSentences_eq_ofGroups n t
  · exact sentences_dropShortSentences n t
  · rw [groups_dropShortSentences]
    exact nil_not_mem_thin (hasWords n) t.groups

end Node

end Prose
