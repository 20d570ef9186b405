import Prose.Proofs.Text.Quoted
import Prose.Proofs.Text.Runs
import Prose.Tree.Outline

/-!
# Outlines down to a depth

Everything in an outline is said by its labels in preorder with their depths
(`Outline.eq_of_preorder_eq`): what stands below an item is the run of deeper labels behind it. So
an outline down to a depth, which is built from above, can be compared with the whole outline
without its deeper labels (`Node.outline_eq_prune`, `Outline.preorder_prune`), and the height of the
tree decides when nothing is missing.

Every label stands on a line of its own in the drawing, behind four characters for each level above
it (`Outline.forall₂_isDrawn_lines`), and since labels are printable no other line breaks come in.
-/

namespace Prose

namespace Outline

/-- Induction over an outline with one hypothesis for all parts. -/
theorem induction {motive : Outline → Prop}
    (item : ∀ label parts, (∀ p ∈ parts, motive p) → motive (.item label parts)) (o : Outline) :
    motive o :=
  o.rec (motive_1 := motive) (motive_2 := fun ps => ∀ p ∈ ps, motive p) item
    (fun _ h => nomatch h)
    (fun _ _ hHead hTail => List.forall_mem_cons.2 ⟨hHead, hTail⟩)

mutual

/-- The labels in preorder, each with its depth, when the outline itself stands at `depth`. -/
def preorder (depth : Nat) : Outline → List (Nat × Text)
  | .item label parts => (depth, label) :: preorderAll (depth + 1) parts

def preorderAll (depth : Nat) : List Outline → List (Nat × Text)
  | [] => []
  | part :: parts => preorder depth part ++ preorderAll depth parts

end

theorem preorderAll_eq_flatMap (depth : Nat) (ps : List Outline) :
    preorderAll depth ps = ps.flatMap (preorder depth) := by
  induction ps with
  | nil => rfl
  | cons p ps ih => rw [preorderAll, ih, List.flatMap_cons]

theorem le_of_mem_preorder {o : Outline} {depth : Nat} {p : Nat × Text}
    (h : p ∈ o.preorder depth) : depth ≤ p.1 := by
  induction o using induction generalizing depth with
  | item label parts ih =>
    rw [preorder, preorderAll_eq_flatMap, List.mem_cons, List.mem_flatMap] at h
    rcases h with rfl | ⟨part, hPart, h⟩
    · exact le_rfl
    · exact Nat.le_of_succ_le (ih part hPart h)

theorem le_of_mem_preorderAll {ps : List Outline} {depth : Nat} {p : Nat × Text}
    (h : p ∈ preorderAll depth ps) : depth ≤ p.1 := by
  rw [preorderAll_eq_flatMap, List.mem_flatMap] at h
  obtain ⟨part, -, h⟩ := h
  exact le_of_mem_preorder h

/-! ### What the labels in preorder say -/

theorem head?_preorderAll {ps : List Outline} {depth : Nat} :
    ∀ p ∈ (preorderAll depth ps).head?, p.1 = depth := by
  cases ps with
  | nil => simp [preorderAll]
  | cons part parts =>
    obtain ⟨label, below⟩ := part
    simp [preorderAll, preorder]

/-- What stands below the first item ends before the next label that is no deeper. -/
theorem preorder_eq_of_append_eq {o o' : Outline} {depth : Nat} {rest rest' : List (Nat × Text)}
    (hRest : ∀ p ∈ rest.head?, p.1 = depth) (hRest' : ∀ p ∈ rest'.head?, p.1 = depth)
    (h : o.preorder depth ++ rest = o'.preorder depth ++ rest') :
    o.preorder depth = o'.preorder depth ∧ rest = rest' := by
  obtain ⟨label, parts⟩ := o
  obtain ⟨label', parts'⟩ := o'
  simp only [preorder, List.cons_append, List.cons.injEq] at h ⊢
  obtain ⟨hLabel, hBehind⟩ := h
  -- both sides are cut at the first label that is not below `depth`
  have hDeeper (ps : List Outline) :
      ∀ p ∈ preorderAll (depth + 1) ps, decide (depth < p.1) = true :=
    fun p hp => decide_eq_true (le_of_mem_preorderAll hp)
  have hStop : ∀ p ∈ rest.head?, decide (depth < p.1) = false :=
    fun p hp => by simp [hRest p hp]
  have hStop' : ∀ p ∈ rest'.head?, decide (depth < p.1) = false :=
    fun p hp => by simp [hRest' p hp]
  have hBelow := congrArg (List.takeWhile fun p => decide (depth < p.1)) hBehind
  have hAfter := congrArg (List.dropWhile fun p => decide (depth < p.1)) hBehind
  rw [takeWhile_append_of_head? (hDeeper parts) hStop,
    takeWhile_append_of_head? (hDeeper parts') hStop'] at hBelow
  rw [dropWhile_append_of_head? (hDeeper parts) hStop,
    dropWhile_append_of_head? (hDeeper parts') hStop'] at hAfter
  exact ⟨⟨hLabel, hBelow⟩, hAfter⟩

theorem eq_of_preorderAll_eq {ps qs : List Outline} {depth : Nat}
    (hParts : ∀ p ∈ ps, ∀ q : Outline, p.preorder depth = q.preorder depth → p = q)
    (h : preorderAll depth ps = preorderAll depth qs) : ps = qs := by
  induction ps generalizing qs with
  | nil =>
    cases qs with
    | nil => rfl
    | cons q qs =>
      obtain ⟨label, parts⟩ := q
      simp [preorderAll, preorder] at h
  | cons p ps ih =>
    rw [List.forall_mem_cons] at hParts
    cases qs with
    | nil =>
      obtain ⟨label, parts⟩ := p
      simp [preorderAll, preorder] at h
    | cons q qs =>
      obtain ⟨hFirst, hRest⟩ := preorder_eq_of_append_eq head?_preorderAll head?_preorderAll h
      rw [hParts.1 q hFirst, ih hParts.2 hRest]

/-- An outline is determined by its labels in preorder and their depths. -/
theorem eq_of_preorder_eq (depth : Nat) {o o' : Outline}
    (h : o.preorder depth = o'.preorder depth) : o = o' := by
  induction o using induction generalizing o' depth with
  | item label parts ih =>
    obtain ⟨label', parts'⟩ := o'
    simp only [preorder, List.cons.injEq, Prod.mk.injEq, true_and] at h
    rw [h.1, eq_of_preorderAll_eq (fun p hp q => ih p hp (depth + 1)) h.2]

/-! ### Pruning -/

/-- The outline without the items deeper than the depth. -/
def prune : Nat → Outline → Outline
  | 0, .item label _ => .item label []
  | depth + 1, .item label parts => .item label (parts.map (prune depth))

theorem preorder_prune (d depth : Nat) (o : Outline) :
    (o.prune d).preorder depth = (o.preorder depth).filter (·.1 ≤ depth + d) := by
  induction d generalizing depth o with
  | zero =>
    obtain ⟨label, parts⟩ := o
    have hDeeper : (preorderAll (depth + 1) parts).filter (·.1 ≤ depth + 0) = [] := by
      rw [List.filter_eq_nil_iff]
      intro p hp
      have hLe := le_of_mem_preorderAll hp
      simp only [decide_eq_true_eq]
      omega
    rw [prune, preorder, preorder, List.filter_cons_of_pos (by simp), hDeeper]
    rfl
  | succ d ih =>
    obtain ⟨label, parts⟩ := o
    have hBelow : preorderAll (depth + 1) (parts.map (prune d)) =
        (preorderAll (depth + 1) parts).filter (·.1 ≤ depth + (d + 1)) := by
      rw [preorderAll_eq_flatMap, preorderAll_eq_flatMap, List.flatMap_map, List.filter_flatMap]
      refine List.flatMap_congr fun part _ => ?_
      rw [ih, Nat.add_right_comm, Nat.add_assoc]
    rw [prune, preorder, preorder, List.filter_cons_of_pos (by simp), hBelow]

theorem prune_prune (d e : Nat) (o : Outline) : (o.prune e).prune d = o.prune (min d e) := by
  refine eq_of_preorder_eq 0 ?_
  simp only [preorder_prune, List.filter_filter, Nat.zero_add, Nat.le_min, Bool.decide_and]

theorem prune_eq_self_iff {d : Nat} {o : Outline} :
    o.prune d = o ↔ ∀ p ∈ o.preorder 0, p.1 ≤ d := by
  have hFilter := preorder_prune d 0 o
  rw [Nat.zero_add] at hFilter
  constructor
  · intro h
    rw [h] at hFilter
    simpa using List.filter_eq_self.1 hFilter.symm
  · intro h
    refine eq_of_preorder_eq 0 (hFilter.trans (List.filter_eq_self.2 ?_))
    simpa using h

/-! ### The drawing -/

/-- The characters of the branches that are drawn in front of labels. -/
def isBranch (c : Char) : Bool :=
  c ∈ ['│', '├', '└', '─', ' ']

theorem isLineBreak_of_isBranch {c : Char} (h : isBranch c) : isLineBreak c = false := by
  simp only [isBranch, decide_eq_true_eq, List.mem_cons, List.not_mem_nil, or_false] at h
  rcases h with rfl | rfl | rfl | rfl | rfl <;> decide

/-- The line is the label behind branches, four characters for each level between `depth` and the
depth of the label. -/
def IsDrawn (depth : Nat) (line : Text) (p : Nat × Text) : Prop :=
  ∃ branches, line = branches ++ p.2 ∧ 4 * depth + branches.length = 4 * p.1 ∧
    branches.all isBranch

theorem IsDrawn.append {depth : Nat} {line first : Text} {p : Nat × Text}
    (h : IsDrawn (depth + 1) line p) (hLength : first.length = 4) (hFirst : first.all isBranch) :
    IsDrawn depth (first ++ line) p := by
  obtain ⟨branches, hLine, hCount, hBranches⟩ := h
  refine ⟨first ++ branches, by rw [hLine, List.append_assoc], ?_, ?_⟩
  · rw [List.length_append]
    omega
  · rw [List.all_append, hFirst, hBranches]
    rfl

theorem forall₂_isDrawn_indent {depth : Nat} {first others : Text} {lines : List Text}
    {ps : List (Nat × Text)} (h : List.Forall₂ (IsDrawn (depth + 1)) lines ps)
    (hFirst : first.length = 4 ∧ first.all isBranch)
    (hOthers : others.length = 4 ∧ others.all isBranch) :
    List.Forall₂ (IsDrawn depth) (indent first others lines) ps := by
  cases h with
  | nil => exact .nil
  | cons hLine hLines =>
    refine .cons (hLine.append hFirst.1 hFirst.2) ?_
    rw [List.forall₂_map_left_iff]
    exact hLines.imp fun _ _ h => h.append hOthers.1 hOthers.2

theorem forall₂_isDrawn_linesAll {depth : Nat} {parts : List Outline}
    (h : ∀ p ∈ parts, List.Forall₂ (IsDrawn (depth + 1)) p.lines (p.preorder (depth + 1))) :
    List.Forall₂ (IsDrawn depth) (linesAll parts) (preorderAll (depth + 1) parts) := by
  induction parts with
  | nil => exact .nil
  | cons part parts ih =>
    rw [List.forall_mem_cons] at h
    rw [linesAll, preorderAll]
    refine List.rel_append ?_ (ih h.2)
    split
    · exact forall₂_isDrawn_indent h.1 (by decide) (by decide)
    · exact forall₂_isDrawn_indent h.1 (by decide) (by decide)

/-- The drawing has one line for each label, in preorder. -/
theorem forall₂_isDrawn_lines (o : Outline) (depth : Nat) :
    List.Forall₂ (IsDrawn depth) o.lines (o.preorder depth) := by
  induction o using induction generalizing depth with
  | item label parts ih =>
    rw [lines, preorder]
    refine .cons ⟨[], rfl, rfl, by simp⟩ (forall₂_isDrawn_linesAll fun p hp => ?_)
    exact ih p hp (depth + 1)

theorem isLineBreak_eq_false_of_isDrawn {depth : Nat} {lines : List Text} {ps : List (Nat × Text)}
    (h : List.Forall₂ (IsDrawn depth) lines ps)
    (hLabels : ∀ p ∈ ps, ∀ c ∈ p.2, isLineBreak c = false) :
    ∀ line ∈ lines, ∀ c ∈ line, isLineBreak c = false := by
  induction h with
  | nil => simp
  | cons hLine _ ih =>
    rw [List.forall_mem_cons] at hLabels ⊢
    obtain ⟨branches, rfl, -, hBranches⟩ := hLine
    refine ⟨List.forall_mem_append.2 ⟨fun c hc => ?_, hLabels.1⟩, ih hLabels.2⟩
    exact isLineBreak_of_isBranch (List.all_eq_true.1 hBranches c hc)

theorem splitOnP_flatMap_lineFeed {lines : List Text}
    (h : ∀ line ∈ lines, ∀ c ∈ line, isLineBreak c = false) :
    (lines.flatMap (· ++ ['\n'])).splitOnP isLineBreak = lines ++ [[]] := by
  induction lines with
  | nil => simp
  | cons line lines ih =>
    rw [List.forall_mem_cons] at h
    rw [List.flatMap_cons, List.append_assoc, List.singleton_append,
      List.splitOnP_append_cons_of_forall_mem h.1 '\n' (by decide), ih h.2]
    rfl

/-- Where no label holds a line break, only the ends of the lines do. -/
theorem splitOnP_text {o : Outline} (h : ∀ p ∈ o.preorder 0, ∀ c ∈ p.2, isLineBreak c = false) :
    o.text.splitOnP isLineBreak = o.lines ++ [[]] := by
  exact splitOnP_flatMap_lineFeed (isLineBreak_eq_false_of_isDrawn (o.forall₂_isDrawn_lines 0) h)

end Outline

namespace Node

mutual

/-- The nodes in preorder, each with its depth, when the node itself stands at `depth`. -/
def preorder (depth : Nat) : Node → List (Nat × Node)
  | .leaf l => [(depth, .leaf l)]
  | .composite level cs => (depth, .composite level cs) :: preorderAll (depth + 1) cs

def preorderAll (depth : Nat) : List Node → List (Nat × Node)
  | [] => []
  | c :: cs => preorder depth c ++ preorderAll depth cs

end

mutual

/-- The number of levels below the node. -/
def height : Node → Nat
  | .leaf _ => 0
  | .composite _ cs => heightAll cs

def heightAll : List Node → Nat
  | [] => 0
  | c :: cs => max (height c + 1) (heightAll cs)

end

theorem preorderAll_eq_flatMap (depth : Nat) (cs : List Node) :
    preorderAll depth cs = cs.flatMap (preorder depth) := by
  induction cs with
  | nil => rfl
  | cons c cs ih => rw [preorderAll, ih, List.flatMap_cons]

theorem heightAll_le_iff {cs : List Node} {d : Nat} :
    heightAll cs ≤ d ↔ ∀ c ∈ cs, c.height + 1 ≤ d := by
  induction cs with
  | nil => simp [heightAll]
  | cons c cs ih => rw [heightAll, Nat.max_le, ih, List.forall_mem_cons]

theorem self_mem_preorder (n : Node) (depth : Nat) : (depth, n) ∈ n.preorder depth := by
  cases n <;> simp [preorder]

/-- The height is the depth of the deepest nodes. -/
theorem height_le_iff {n : Node} {d : Nat} (depth : Nat) :
    n.height ≤ d ↔ ∀ p ∈ n.preorder depth, p.1 ≤ depth + d := by
  induction n using Node.induction generalizing d depth with
  | leaf l => simp [height, preorder]
  | composite level cs ih =>
    rw [height, heightAll_le_iff, preorder, preorderAll_eq_flatMap, List.forall_mem_cons,
      List.forall_mem_flatMap]
    simp only [Nat.le_add_right, true_and]
    refine forall₂_congr fun c hc => ?_
    -- a child stands one level down, which is too deep for the limit 0
    cases d with
    | zero =>
      have hRoot := self_mem_preorder c (depth + 1)
      refine iff_of_false (by omega) fun h => ?_
      have := h _ hRoot
      omega
    | succ d => rw [Nat.succ_le_succ_iff, ih c hc (depth + 1), Nat.add_right_comm, Nat.add_assoc]

/-! ### Labels -/

theorem isPrintable_of_mem_label {n : Node} {c : Char} (h : c ∈ n.label) : isPrintable c := by
  cases n with
  | leaf l =>
    have hName : (l.kind.name ++ [' ']).all isAscii := by cases l <;> rfl
    rw [label, List.append_cons, List.mem_append] at h
    rcases h with h | h
    · exact isPrintable_of_all_isAscii hName h
    · exact Quoted.isPrintable_of_mem_char h
  | composite level cs =>
    have hName : (level.name ++ " (".toList).all isAscii := by cases level <;> decide
    simp only [label, List.mem_append] at h
    rcases h with ((h | h) | h) | h
    · exact isPrintable_of_all_isAscii hName (List.mem_append.2 h)
    · exact isPrintable_of_isDigit (Decimal.isDigit_of_mem_ofNat h)
    · exact isPrintable_of_all_isAscii (by decide) h
    · exact Quoted.isPrintable_of_mem_text h

theorem isLineBreak_of_mem_label {n : Node} : ∀ c ∈ n.label, isLineBreak c = false :=
  fun _ h => isLineBreak_eq_false (isPrintable_of_mem_label h)

example : (sign '\n').label = "sign '\\n'".toList := by decide

/-! ### The outline of a tree -/

/-- The whole outline has the labels of all nodes. -/
theorem preorder_outline_none (n : Node) (depth : Nat) :
    (n.outline none).preorder depth = (n.preorder depth).map fun p => (p.1, p.2.label) := by
  induction n using Node.induction generalizing depth with
  | leaf l => rfl
  | composite level cs ih =>
    rw [outline, if_neg nofun, outlineAll_eq_map, Outline.preorder, Outline.preorderAll_eq_flatMap,
      preorder, preorderAll_eq_flatMap, List.flatMap_map, List.map_cons, List.map_flatMap]
    exact congrArg _ (List.flatMap_congr fun c hc => ih c hc (depth + 1))

/-- An outline down to a depth is the whole outline without what is deeper. -/
theorem outline_eq_prune (n : Node) (d : Nat) :
    n.outline (some d) = (n.outline none).prune d := by
  induction n using Node.induction generalizing d with
  | leaf l => cases d <;> rfl
  | composite level cs ih =>
    cases d with
    | zero => rfl
    | succ d =>
      rw [outline, outline, if_neg (by simp), if_neg nofun, outlineAll_eq_map, outlineAll_eq_map,
        Outline.prune, List.map_map]
      exact congrArg _ (List.map_congr_left fun c hc => ih c hc d)

theorem preorder_outline_some (n : Node) (d : Nat) :
    (n.outline (some d)).preorder 0 =
      ((n.preorder 0).filter (·.1 ≤ d)).map fun p => (p.1, p.2.label) := by
  rw [outline_eq_prune, Outline.preorder_prune, preorder_outline_none, List.filter_map,
    Nat.zero_add]
  rfl

/-- A depth limit removes what is deeper from the whole outline and nothing else: the labels that
are left are those of the whole outline, which determine the outline, so limits come together to the
least of them, and only a limit below the height changes anything. No label holds a line break, and
the drawing has one line for each node down to the limit, in preorder. -/
theorem outline_eq_prune_and_splitOnP_text (n : Node) :
    (∀ d, n.outline (some d) = (n.outline none).prune d) ∧
    (∀ d o, o = n.outline (some d) ↔
      o.preorder 0 = ((n.outline none).preorder 0).filter (·.1 ≤ d)) ∧
    (∀ d e, (n.outline (some e)).prune d = n.outline (some (min d e))) ∧
    (∀ d, n.outline (some d) = n.outline none ↔ n.height ≤ d) ∧
    (∀ m : Node, ∀ c ∈ m.label, isLineBreak c = false) ∧
    ∀ d, ∃ lines, (n.outline (some d)).text.splitOnP isLineBreak = lines ++ [[]] ∧
      List.Forall₂ (fun line p => Outline.IsDrawn 0 line (p.1, p.2.label)) lines
        ((n.preorder 0).filter (·.1 ≤ d)) := by
  refine ⟨n.outline_eq_prune, fun d o => ?_, fun d e => ?_, fun d => ?_,
    fun m => isLineBreak_of_mem_label, fun d => ⟨(n.outline (some d)).lines, ?_, ?_⟩⟩
  · have hPrune := Outline.preorder_prune d 0 (n.outline none)
    rw [← outline_eq_prune, Nat.zero_add] at hPrune
    rw [← hPrune]
    exact ⟨fun h => by rw [h], Outline.eq_of_preorder_eq 0⟩
  · rw [outline_eq_prune, Outline.prune_prune, ← outline_eq_prune]
  · have hHeight := n.height_le_iff (d := d) 0
    rw [Nat.zero_add] at hHeight
    rw [outline_eq_prune, Outline.prune_eq_self_iff, preorder_outline_none, List.forall_mem_map,
      hHeight]
  · refine Outline.splitOnP_text fun p hp => ?_
    rw [preorder_outline_some] at hp
    obtain ⟨⟨depth, m⟩, -, rfl⟩ := List.mem_map.1 hp
    exact isLineBreak_of_mem_label
  · have hDrawn := (n.outline (some d)).forall₂_isDrawn_lines 0
    rwa [preorder_outline_some, List.forall₂_map_right_iff] at hDrawn

end Node

end Prose
