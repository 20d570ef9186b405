import Prose.Proofs.Tree.Leaves
import Prose.Tree.Workbench

/-!
# Runs on a workbench

A step has one result, which it puts under its target, or it is refused. So a step tells about one
name only (`node_run_singleton`), and what holds of whole runs follows by induction
on the steps: a composite keeps its level and its children and gets one more child with each step
that adds to it, the present state of the source (`node_run_of_keeps`), and no letter comes up that
is no word character (`isLettered_run`).
-/

namespace Prose

namespace Node

variable {n child : Node}

theorem get_eq_ok {index : Nat} (h : index < n.childCount) :
    n.get index = .ok (n.children.get ⟨index, h⟩) := by
  rw [get, List.getElem?_eq_getElem h]
  rfl

theorem get_eq_error {index : Nat} (h : n.childCount ≤ index) :
    n.get index = .error (.indexOutOfRange index n.childCount) := by
  rw [get, List.getElem?_eq_none h]

/-- Every letter of the tree is a word character. -/
def IsLettered (n : Node) : Prop :=
  ∀ c, Leaf.letter c ∈ n.leaves → isWordChar c

theorem isLettered_leaf {l : Leaf} (h : ∀ c, l = .letter c → isWordChar c) :
    (leaf l).IsLettered := by
  intro c hc
  rw [leaves, List.mem_singleton] at hc
  exact h c hc.symm

theorem isLettered_composite_iff {level : Level} {cs : List Node} :
    (composite level cs).IsLettered ↔ ∀ n ∈ cs, n.IsLettered := by
  simp only [IsLettered, leaves_composite, List.mem_flatMap]
  constructor
  · intro h n hn c hc
    exact h c ⟨n, hn, hc⟩
  · rintro h c ⟨n, hn, hc⟩
    exact h n hn c hc

theorem isLettered_letter {c : Char} (h : letter c = .ok n) : n.IsLettered := by
  unfold letter at h
  split at h
  next hc =>
    obtain rfl := Except.ok.inj h
    refine isLettered_leaf fun d hd => ?_
    rwa [← Leaf.letter.inj hd]
  next => cases h

theorem isLettered_classify (c : Char) : (leaf (.classify c)).IsLettered := by
  refine isLettered_leaf fun d hd => ?_
  unfold Leaf.classify at hd
  split at hd
  next hc => rwa [← Leaf.letter.inj hd]
  next => cases hd

theorem IsLettered.add {m : Node} (hn : n.IsLettered) (hChild : child.IsLettered)
    (h : n.add child = .ok m) : m.IsLettered := by
  cases n with
  | leaf l => cases h
  | composite level cs =>
    obtain rfl := Except.ok.inj h
    rw [isLettered_composite_iff] at hn ⊢
    rw [List.forall_mem_append]
    exact ⟨hn, List.forall_mem_singleton.2 hChild⟩

theorem IsLettered.get {index : Nat} {m : Node} (hn : n.IsLettered) (h : n.get index = .ok m) :
    m.IsLettered := by
  by_cases hIndex : index < n.childCount
  · rw [get_eq_ok hIndex] at h
    obtain rfl := Except.ok.inj h
    cases n with
    | leaf l => cases hIndex
    | composite level cs => exact isLettered_composite_iff.1 hn _ (List.getElem_mem hIndex)
  · rw [get_eq_error (Nat.le_of_not_lt hIndex)] at h
    cases h

end Node

namespace Workbench

/-- The name whose node the step adds to the node under `name`. -/
def Step.source? (name : Text) : Step → Option Text
  | .add target child => if target = name then some child else none
  | _ => none

/-- Why a step is refused. -/
inductive Refuses (bench : Workbench) : Step → Node.Error → Prop
  | letter {target : Text} {c : Char} : isWordChar c = false →
      Refuses bench (.letter target c) (.invalidLetter c)
  | add {target child : Text} {l : Leaf} : bench.node target = .leaf l →
      Refuses bench (.add target child) (.unsupported l.kind)
  | get {target source : Text} {index : Nat} : (bench.node source).childCount ≤ index →
      Refuses bench (.get target source index)
        (.indexOutOfRange index (bench.node source).childCount)

/-- Does the step put another node in the place of the one under `name`? Adding to a node does not,
and neither does a step that is refused. -/
def renews (bench : Workbench) (name : Text) (step : Step) : Bool :=
  step.target = name && (step.source? name).isNone && (bench.result step).toOption.isSome

/-- Does the node under `name` stay in its place on a run? -/
def keeps (bench : Workbench) (name : Text) : List Step → Bool
  | [] => true
  | step :: steps => !bench.renews name step && keeps (bench.run [step]) name steps

/-- What is added to the node under `name` on a run: for each step that adds to it, the node that is
under the name of the source at that moment. -/
def added (bench : Workbench) (name : Text) : List Step → List Node
  | [] => []
  | step :: steps =>
    (step.source? name).toList.map bench.node ++ added (bench.run [step]) name steps

variable {bench : Workbench} {name : Text} {step : Step}

/-! ### One step -/

theorem lookup_filter_ne {other : Text} (h : other ≠ name) (bench : Workbench) :
    (bench.filter (·.1 ≠ name)).lookup other = bench.lookup other := by
  induction bench with
  | nil => rfl
  | cons entry bench ih =>
    obtain ⟨key, n⟩ := entry
    by_cases hKey : key = name
    · have hOther : (other == key) = false := by simpa [hKey] using h
      rw [List.filter_cons_of_neg (by simpa using hKey), ih, List.lookup_cons, hOther]
    · rw [List.filter_cons_of_pos (by simpa using hKey), List.lookup_cons, List.lookup_cons, ih]

theorem node_put (bench : Workbench) (name : Text) (n : Node) (other : Text) :
    (bench.put name n).node other = if other = name then n else bench.node other := by
  rw [put, node, List.lookup_cons]
  by_cases h : other = name
  · simp [h]
  · have hOther : (other == name) = false := by simpa using h
    rw [if_neg h, hOther, lookup_filter_ne h]
    rfl

theorem result_eq_error_iff {e : Node.Error} :
    bench.result step = .error e ↔ bench.Refuses step e := by
  constructor
  · intro h
    cases step with
    | compose target level => cases h
    | letter target c =>
      simp only [result, Node.letter] at h
      split at h
      next => cases h
      next hc =>
        obtain rfl := Except.error.inj h
        exact .letter (by simpa using hc)
    | sign target c => cases h
    | classify target c => cases h
    | add target child =>
      cases hNode : bench.node target with
      | leaf l =>
        rw [result, hNode] at h
        obtain rfl := Except.error.inj h
        exact .add hNode
      | composite level cs =>
        rw [result, hNode] at h
        cases h
    | get target source index =>
      rw [result] at h
      by_cases hIndex : index < (bench.node source).childCount
      · rw [Node.get_eq_ok hIndex] at h
        cases h
      · rw [Node.get_eq_error (Nat.le_of_not_lt hIndex)] at h
        obtain rfl := Except.error.inj h
        exact .get (Nat.le_of_not_lt hIndex)
  · intro h
    cases h with
    | letter hc => simp [result, Node.letter, hc]
    | add hNode => rw [result, hNode, Node.add]
    | get hIndex => exact Node.get_eq_error hIndex

theorem apply_eq_error_iff {e : Node.Error} :
    bench.apply step = .error e ↔ bench.Refuses step e := by
  rw [← result_eq_error_iff, apply]
  cases bench.result step with
  | ok n => exact iff_of_false nofun nofun
  | error f => simp

theorem run_singleton_of_ok {n : Node} (h : bench.result step = .ok n) :
    bench.run [step] = bench.put step.target n := by
  rw [run, apply, h]
  rfl

/-- A refused step changes nothing. -/
theorem run_singleton_of_error {e : Node.Error} (h : bench.result step = .error e) :
    bench.run [step] = bench := by
  rw [run, apply, h]
  rfl

/-- A step changes the node under its target at most. -/
theorem node_run_singleton (bench : Workbench) (step : Step) (name : Text) :
    (bench.run [step]).node name =
      if name = step.target then (bench.result step).toOption.getD (bench.node name)
      else bench.node name := by
  cases h : bench.result step with
  | ok n => rw [run_singleton_of_ok h, node_put, Except.toOption, Option.getD_some]
  | error e => rw [run_singleton_of_error h, Except.toOption, Option.getD_none, ite_self]

/-- A composite that stays in its place gets the node of the source behind its children. -/
theorem node_run_singleton_of_not_renews {level : Level} {cs : List Node}
    (hNode : bench.node name = .composite level cs) (hStep : bench.renews name step = false) :
    (bench.run [step]).node name =
      .composite level (cs ++ (step.source? name).toList.map bench.node) := by
  rw [node_run_singleton]
  by_cases hName : name = step.target
  · rw [if_pos hName]
    cases hSource : step.source? name with
    | none =>
      -- nothing is added, so the step is refused
      have hNone : (bench.result step).toOption = none := by
        simpa [renews, hName.symm, hSource] using hStep
      rw [hNone, hNode, Option.toList_none, List.map_nil, List.append_nil, Option.getD_none]
    | some child =>
      cases step with
      | add target source =>
        obtain rfl : name = target := hName
        obtain rfl : source = child := by simpa [Step.source?] using hSource
        rw [result, hNode]
        rfl
      | _ => cases hSource
  · have hSource : step.source? name = none := by
      cases step with
      | add target child => exact if_neg (Ne.symm hName)
      | _ => rfl
    rw [if_neg hName, hNode, hSource, Option.toList_none, List.map_nil, List.append_nil]

/-- Adding keeps the kind of every node. -/
theorem kind_node_run_add (bench : Workbench) (target child name : Text) :
    ((bench.run [.add target child]).node name).kind = (bench.node name).kind := by
  rw [node_run_singleton]
  split
  next hName =>
    obtain rfl : name = target := hName
    rw [result]
    cases bench.node name <;> rfl
  next => rfl

theorem isLettered_result (h : ∀ name, (bench.node name).IsLettered) {n : Node}
    (hResult : bench.result step = .ok n) : n.IsLettered := by
  cases step with
  | compose target level =>
    obtain rfl := Except.ok.inj hResult
    exact Node.isLettered_composite_iff.2 (by simp)
  | letter target c => exact Node.isLettered_letter hResult
  | sign target c =>
    obtain rfl := Except.ok.inj hResult
    exact Node.isLettered_leaf fun d hd => nomatch hd
  | classify target c =>
    obtain rfl := Except.ok.inj hResult
    exact Node.isLettered_classify c
  | add target child => exact (h target).add (h child) hResult
  | get target source index => exact (h source).get hResult

theorem isLettered_run_singleton (h : ∀ name, (bench.node name).IsLettered) (step : Step)
    (name : Text) : ((bench.run [step]).node name).IsLettered := by
  rw [node_run_singleton]
  split
  next =>
    cases hResult : bench.result step with
    | ok n => exact isLettered_result h hResult
    | error e => exact h name
  next => exact h name

/-! ### Runs -/

theorem run_cons (bench : Workbench) (step : Step) (steps : List Step) :
    bench.run (step :: steps) = (bench.run [step]).run steps := by
  rw [run, run]
  cases bench.apply step <;> rfl

theorem run_append (bench : Workbench) (steps more : List Step) :
    bench.run (steps ++ more) = (bench.run steps).run more := by
  induction steps generalizing bench with
  | nil => rfl
  | cons step steps ih => rw [List.cons_append, run_cons, ih, ← run_cons]

/-- A composite that stays in its place has the nodes that were added to it behind the children that
it had. -/
theorem node_run_of_keeps {level : Level} {cs : List Node} {steps : List Step}
    (hNode : bench.node name = .composite level cs) (hKeeps : bench.keeps name steps) :
    (bench.run steps).node name = .composite level (cs ++ bench.added name steps) := by
  induction steps generalizing bench cs with
  | nil => rw [run, added, hNode, List.append_nil]
  | cons step steps ih =>
    rw [keeps, Bool.and_eq_true, Bool.not_eq_true'] at hKeeps
    have hStep := node_run_singleton_of_not_renews hNode hKeeps.1
    rw [run_cons, ih hStep hKeeps.2, added, List.append_assoc]

theorem isLettered_run (h : ∀ name, (bench.node name).IsLettered) (steps : List Step)
    (name : Text) : ((bench.run steps).node name).IsLettered := by
  induction steps generalizing bench with
  | nil => exact h name
  | cons step steps ih =>
    rw [run_cons]
    exact ih (isLettered_run_singleton h step)

theorem node_run_compose (bench : Workbench) (name : Text) (level : Level) :
    (bench.run [.compose name level]).node name = .composite level [] := by
  rw [node_run_singleton]
  exact if_pos rfl

/-- After any steps from an empty workbench: a node that was made as a composite and stayed in its
place has exactly the children that were added to it, each as its source was at that moment.
Children are found at their positions and nowhere else. The refused steps are those with a cause,
and they change nothing. Adding keeps every kind, and all letters are word characters. -/
theorem node_run_eq_added_and_refused (steps : List Step) :
    let bench : Workbench := run [] steps
    (∀ before name level later, steps = before ++ .compose name level :: later →
      let made := run [] (before ++ [.compose name level])
      made.keeps name later → bench.node name = .composite level (made.added name later)) ∧
    (∀ name index,
      (∀ h : index < (bench.node name).childCount,
        (bench.node name).get index = .ok ((bench.node name).children.get ⟨index, h⟩)) ∧
      ((bench.node name).childCount ≤ index → (bench.node name).get index =
        .error (.indexOutOfRange index (bench.node name).childCount))) ∧
    (∀ step e, (bench.apply step = .error e ↔ bench.Refuses step e) ∧
      (bench.apply step = .error e → run [] (steps ++ [step]) = bench)) ∧
    (∀ target child name, ((run [] (steps ++ [.add target child])).node name).kind =
      (bench.node name).kind) ∧
    ∀ name c, .letter c ∈ (bench.node name).leaves → isWordChar c := by
  intro bench
  refine ⟨?_, fun name index => ⟨Node.get_eq_ok, Node.get_eq_error⟩, fun step e => ?_,
    fun target child name => ?_, fun name => ?_⟩
  · intro before name level later hSteps made hKeeps
    have hMade : made.node name = .composite level [] := by
      show (run [] (before ++ [.compose name level])).node name = _
      rw [run_append, node_run_compose]
    have hRun : bench = made.run later := by
      show run [] steps = _
      rw [← run_append, List.append_assoc, List.singleton_append, ← hSteps]
    rw [hRun, node_run_of_keeps hMade hKeeps, List.nil_append]
  · refine ⟨apply_eq_error_iff, fun h => ?_⟩
    rw [run_append]
    exact run_singleton_of_error (result_eq_error_iff.2 (apply_eq_error_iff.1 h))
  · rw [run_append]
    exact kind_node_run_add bench target child name
  · refine isLettered_run (fun other => ?_) steps name
    exact Node.isLettered_composite_iff.2 (by simp)

/-- A sentence is added to itself, and its first child is replaced where it came from. -/
theorem run_with_sentence_in_itself :
    let x : Text := ['x']
    let s : Text := ['s']
    let h : Node := .leaf (.letter 'h')
    let later : List Step :=
      [.add s x, .sign x '!', .letter s '?', .add s s, .get x s 0, .add s x]
    let steps : List Step := [.letter x 'h'] ++ .compose s .sentence :: later
    let made := run [] ([.letter x 'h'] ++ [.compose s .sentence])
    made.keeps s later ∧
      (run [] steps).node s = .composite .sentence [h, .composite .sentence [h], h] ∧
      2 < ((run [] steps).node s).childCount ∧ ((run [] steps).node s).get 2 = .ok h ∧
      3 ≤ ((run [] steps).node s).childCount ∧
      ((run [] steps).node s).get 3 = .error (.indexOutOfRange 3 3) ∧
      (run [] steps).apply (.add x s) = .error (.unsupported .letter) ∧
      run [] (steps ++ [.add x s]) = run [] steps ∧
      .letter 'h' ∈ ((run [] steps).node s).leaves ∧ isWordChar 'h' := by
  intro x s h later steps made
  obtain ⟨hNode, hGet, hRefused, -, hLetters⟩ := node_run_eq_added_and_refused steps
  have hKeeps : made.keeps s later := by decide
  have hWithin : 2 < ((run [] steps).node s).childCount := by decide
  have hBeyond : 3 ≤ ((run [] steps).node s).childCount := by decide
  have hLeaf : (run [] steps).apply (.add x s) = .error (.unsupported .letter) := by
    refine (hRefused _ _).1.2 (.add (l := .letter 'h') ?_)
    decide
  have hMem : .letter 'h' ∈ ((run [] steps).node s).leaves := by decide
  exact ⟨hKeeps, hNode _ s _ later rfl hKeeps, hWithin, (hGet s 2).1 hWithin, hBeyond,
    (hGet s 3).2 hBeyond, hLeaf, (hRefused _ _).2 hLeaf, hMem, hLetters s 'h' hMem⟩

end Workbench

end Prose
