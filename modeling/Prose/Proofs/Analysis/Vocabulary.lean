import Prose.Proofs.Analysis.Order

/-!
# Longest and repeated words

The longest words are searched in two passes, one for their length and one for the sentences that
have a word of this length. The result is the sentences with a word that no other is longer than
(`longestSentences_eq_filter`). The repeated words are read off the sorted vocabulary; each comes
out with its `multiplicity`, which counts the words four levels below the root without regard to
case and adds up when paragraphs are put together (`multiplicity_append`).
-/

namespace Prose.Node

/-! ### Longest words -/

variable {t : Node}

theorem longestWord?_eq_none_iff : t.longestWord? = none ↔ ∀ s ∈ t.sentences, s.words = [] := by
  rw [longestWord?, List.max?_eq_none_iff, List.flatMap_eq_nil_iff]
  simp only [List.map_eq_nil_iff]

theorem longestWord?_eq_some_iff {longest : Nat} : t.longestWord? = some longest ↔
    (∃ s ∈ t.sentences, ∃ w ∈ s.words, w.letterCount = longest) ∧
      ∀ s ∈ t.sentences, ∀ w ∈ s.words, w.letterCount ≤ longest := by
  rw [longestWord?, List.max?_eq_some_iff]
  simp only [List.mem_flatMap, List.mem_map]
  constructor
  · rintro ⟨hMem, hLe⟩
    exact ⟨hMem, fun s hs w hw => hLe _ ⟨s, hs, w, hw, rfl⟩⟩
  · rintro ⟨hMem, hLe⟩
    refine ⟨hMem, ?_⟩
    rintro _ ⟨s, hs, w, hw, rfl⟩
    exact hLe s hs w hw

/-- Has the sentence a word that no word of any sentence of the tree is longer than? -/
def HasLongestWord (t sentence : Node) : Prop :=
  ∃ w ∈ sentence.words, ∀ s ∈ t.sentences, ∀ v ∈ s.words, v.letterCount ≤ w.letterCount

instance (t sentence : Node) : Decidable (t.HasLongestWord sentence) :=
  inferInstanceAs (Decidable (∃ w ∈ _, _))

theorem longestSentences_eq_filter (t : Node) :
    t.longestSentences = t.sentences.filter (t.HasLongestWord ·) := by
  rw [longestSentences]
  cases hLongest : t.longestWord? with
  | none =>
    rw [longestWord?_eq_none_iff] at hLongest
    rw [eq_comm, List.filter_eq_nil_iff]
    intro s hs hHas
    obtain ⟨w, hw, -⟩ := of_decide_eq_true hHas
    rw [hLongest s hs] at hw
    cases hw
  | some longest =>
    -- some word has this length, so a word that is no shorter than any has it as well
    obtain ⟨⟨s, hs, v, hv, hLength⟩, hLe⟩ := longestWord?_eq_some_iff.1 hLongest
    refine List.filter_congr fun s' hs' => ?_
    rw [Bool.eq_iff_iff, List.any_eq_true, decide_eq_true_eq]
    constructor
    · rintro ⟨w, hw, hEq⟩
      rw [← of_decide_eq_true hEq] at hLe
      exact ⟨w, hw, hLe⟩
    · rintro ⟨w, hw, hMax⟩
      have hEq : w.letterCount = longest := by
        refine le_antisymm (hLe s' hs' w hw) ?_
        rw [← hLength]
        exact hMax s hs v hv
      exact ⟨w, hw, decide_eq_true hEq⟩

theorem longestSentences_eq_nil_iff :
    t.longestSentences = [] ↔ ∀ s ∈ t.sentences, s.words = [] := by
  rw [← longestWord?_eq_none_iff, longestSentences]
  cases hLongest : t.longestWord? with
  | none => exact iff_of_true rfl rfl
  | some longest =>
    obtain ⟨⟨s, hs, w, hw, hLength⟩, -⟩ := longestWord?_eq_some_iff.1 hLongest
    refine iff_of_false (fun hNil => ?_) (Option.some_ne_none longest)
    refine List.filter_eq_nil_iff.1 hNil s hs ?_
    exact List.any_eq_true.2 ⟨w, hw, decide_eq_true hLength⟩

/-- The sentences with a longest word come out in their order, each as often as it stands in the
tree, and no others. There is none exactly when there is no word; a word without letters is one. -/
theorem longestSentences_eq_filter_and_eq_nil_iff (t : Node) :
    (t.longestSentences = t.sentences.filter fun sentence =>
      ∃ w ∈ sentence.words, ∀ s ∈ t.sentences, ∀ v ∈ s.words, v.letterCount ≤ w.letterCount) ∧
    (t.longestSentences = [] ↔ ∀ s ∈ t.sentences, s.words = []) :=
  ⟨longestSentences_eq_filter t, longestSentences_eq_nil_iff⟩

/-! ### Repeated words -/

/-- The nodes `depth` levels below a node, from left to right. -/
def atDepth : Nat → Node → List Node
  | 0, n => [n]
  | depth + 1, n => n.children.flatMap (atDepth depth)

/-- The number of words four levels below the root that are `w` in lowercase. -/
def multiplicity (t : Node) (w : Text) : Nat :=
  (t.atDepth 4).countP fun n => n.isWord && n.foldedText = w

/-- A document with the paragraphs of two trees. -/
def append (t u : Node) : Node :=
  .composite .document (t.children ++ u.children)

theorem atDepth_add (n : Node) (a b : Nat) :
    n.atDepth (a + b) = (n.atDepth a).flatMap (atDepth b) := by
  induction a generalizing n with
  | zero => rw [Nat.zero_add, atDepth, List.flatMap_singleton]
  | succ a ih =>
    rw [Nat.succ_add, atDepth, atDepth, List.flatMap_assoc]
    exact List.flatMap_congr fun c _ => ih c

/-- The sentences are two levels below the root, and the parts of a sentence two below it. -/
theorem flatMap_children_children (n : Node) : n.children.flatMap children = n.atDepth 2 := by
  simp only [atDepth, List.flatMap_singleton']

theorem flatMap_parts_sentences (t : Node) : t.sentences.flatMap parts = t.atDepth 4 := by
  have hParts : parts = atDepth 2 := funext flatMap_children_children
  rw [sentences, flatMap_children_children, hParts, ← atDepth_add]

theorem atDepth_append (t u : Node) (depth : Nat) :
    (t.append u).atDepth (depth + 1) = t.atDepth (depth + 1) ++ u.atDepth (depth + 1) := by
  rw [atDepth, append, children, List.flatMap_append, atDepth, atDepth]

theorem vocabulary_eq_map (t : Node) :
    t.vocabulary = ((t.atDepth 4).filter isWord).map foldedText := by
  rw [← flatMap_parts_sentences, List.filter_flatMap, List.map_flatMap, vocabulary]
  rfl

theorem count_vocabulary (t : Node) (w : Text) : t.vocabulary.count w = t.multiplicity w := by
  rw [vocabulary_eq_map, List.count_eq_countP, List.countP_map, List.countP_filter, multiplicity]
  refine List.countP_congr fun n _ => ?_
  simp [and_comm]

theorem multiplicity_append (t u : Node) (w : Text) :
    (t.append u).multiplicity w = t.multiplicity w + u.multiplicity w := by
  rw [multiplicity, atDepth_append, List.countP_append, multiplicity, multiplicity]

theorem isStableSort_mergeSort_le (texts : List Text) :
    IsStableSort id texts (texts.mergeSort Text.le) := by
  have hLe (s t : Text) : Text.le s t ↔ id s ≤ id t := Text.le_iff
  exact isStableSort_mergeSort hLe texts

theorem mem_duplicates_iff {w : Text} {n : Nat} :
    (w, n) ∈ t.duplicates ↔ 2 ≤ n ∧ t.multiplicity w = n := by
  rw [duplicates, List.mem_filter, List.mem_map, decide_eq_true_eq]
  constructor
  · rintro ⟨⟨v, -, hEntry⟩, hTwo⟩
    obtain ⟨rfl, hCount⟩ := Prod.mk.inj hEntry
    exact ⟨hTwo, by rw [← count_vocabulary, hCount]⟩
  · rintro ⟨hTwo, hCount⟩
    rw [← count_vocabulary] at hCount
    have hMem : w ∈ t.vocabulary := List.count_pos_iff.1 (by omega)
    refine ⟨⟨w, ?_, by rw [hCount]⟩, hTwo⟩
    rwa [mem_eraseReps, List.mem_mergeSort]

theorem pairwise_duplicates (t : Node) : t.duplicates.Pairwise (·.1 < ·.1) := by
  refine List.Pairwise.filter _ (List.pairwise_map.2 ?_)
  exact pairwise_lt_eraseReps (isStableSort_mergeSort_le t.vocabulary).ordered

/-- The repeated words come out in ascending order, each once and with the number of its
occurrences, which is two or more. Where the paragraphs of two trees are put together, the
occurrences of a word are those in either, so words that occur once in each are repeated. -/
theorem mem_duplicates_iff_and_multiplicity_append :
    (∀ t : Node, t.duplicates.Pairwise (·.1 < ·.1) ∧
      ∀ w n, (w, n) ∈ t.duplicates ↔ 2 ≤ n ∧ t.multiplicity w = n) ∧
    ∀ (t u : Node) (w : Text),
      (t.append u).multiplicity w = t.multiplicity w + u.multiplicity w ∧
      (t.multiplicity w = 1 → u.multiplicity w = 1 → (w, 2) ∈ (t.append u).duplicates) := by
  refine ⟨fun t => ⟨pairwise_duplicates t, fun w n => mem_duplicates_iff⟩, fun t u w => ?_⟩
  refine ⟨multiplicity_append t u w, fun ht hu => mem_duplicates_iff.2 ⟨le_refl 2, ?_⟩⟩
  rw [multiplicity_append, ht, hu]

theorem duplicates_of_shared_word :
    let t := Node.composite .document [Parse.paragraph "No.".toList]
    let u := Node.composite .document [Parse.paragraph "NO!".toList]
    t.multiplicity "no".toList = 1 ∧ u.multiplicity "no".toList = 1 ∧
      ("no".toList, 2) ∈ (t.append u).duplicates := by
  intro t u
  have ht : t.multiplicity "no".toList = 1 := by cbv
  have hu : u.multiplicity "no".toList = 1 := by cbv
  exact ⟨ht, hu, (mem_duplicates_iff_and_multiplicity_append.2 t u _).2 ht hu⟩

end Prose.Node
