import Mathlib
import Prose.Command.Run

/-!
# Exit codes of failing steps

Loading the settings, wiring a pipeline, reading a file and evaluating an expression fail with
their own exit codes only (`FailsWith`), and so does what is composed of them.
-/

namespace Prose

/-- Every failure of `x` has one of the exit codes. -/
def FailsWith {α : Type} (codes : List Nat) (x : Except Failure α) : Prop :=
  ∀ f, x = .error f → f.exitCode ∈ codes

section

variable {α β : Type} {codes : List Nat}

theorem failsWith_ok (a : α) : FailsWith codes (.ok a) := by
  intro f h
  cases h

theorem FailsWith.mono {x : Except Failure α} (h : FailsWith codes x) {more : List Nat}
    (hCodes : codes ⊆ more) : FailsWith more x :=
  fun f hf => hCodes (h f hf)

theorem failsWith_error {failure : Failure} (h : failure.exitCode ∈ codes) :
    FailsWith (α := α) codes (.error failure) := by
  intro f hf
  cases hf
  exact h

theorem failsWith_bind {x : Except Failure α} {k : α → Except Failure β} (hx : FailsWith codes x)
    (hk : ∀ a, FailsWith codes (k a)) : FailsWith codes (x >>= k) := by
  intro f h
  cases x with
  | error e =>
    cases h
    exact hx _ rfl
  | ok a => exact hk a f h

theorem failsWith_map {x : Except Failure α} (g : α → β) (hx : FailsWith codes x) :
    FailsWith codes (g <$> x) := by
  rw [map_eq_pure_bind]
  exact failsWith_bind hx fun a => failsWith_ok (g a)

theorem failsWith_foldlM {step : β → α → Except Failure β}
    (hStep : ∀ b a, FailsWith codes (step b a)) (as : List α) (b : β) :
    FailsWith codes (as.foldlM step b) := by
  induction as generalizing b with
  | nil => exact failsWith_ok b
  | cons a as ih =>
    rw [List.foldlM_cons]
    exact failsWith_bind (hStep b a) ih

end

/-! ### Settings -/

namespace Settings

theorem failsWith_fileOverlay (host : Host) (files : Files) (path : Text) :
    FailsWith [78] (fileOverlay host files path) := by
  unfold fileOverlay
  dsimp only
  split
  · exact failsWith_ok none
  · exact failsWith_error List.mem_cons_self
  · exact failsWith_error List.mem_cons_self
  · split
    · exact failsWith_ok _
    · exact failsWith_error List.mem_cons_self

theorem failsWith_addFile (host : Host) (files : Files) (s : Settings) (path : Text) :
    FailsWith [78] (addFile host files s path) := by
  refine failsWith_bind (failsWith_fileOverlay host files path) fun o => ?_
  cases o with
  | none => exact failsWith_ok s
  | some o => exact failsWith_ok (s.under o)

end Settings

namespace Environment

theorem failsWith_count (t : Text) : FailsWith [78] (count t) := by
  unfold count
  split
  · exact failsWith_ok _
  · exact failsWith_error List.mem_cons_self

theorem failsWith_symbol (t : Text) : FailsWith [78] (symbol t) := by
  unfold symbol
  split
  · exact failsWith_ok _
  · exact failsWith_error List.mem_cons_self

theorem failsWith_readIfGiven {α : Type} {read : Text → Except Failure α} {codes : List Nat}
    (h : ∀ t, FailsWith codes (read t)) (t : Option Text) :
    FailsWith codes (readIfGiven read t) := by
  cases t with
  | none => exact failsWith_ok none
  | some t => exact failsWith_map some (h t)

theorem failsWith_overlay (env : Environment) : FailsWith [78] env.overlay := by
  refine failsWith_bind (failsWith_readIfGiven failsWith_count _) fun n => ?_
  refine failsWith_bind (failsWith_readIfGiven failsWith_symbol _) fun c => ?_
  exact failsWith_ok _

end Environment

namespace Settings

theorem failsWith_load (files : Files) (env : Environment) (dir : Option Text) (host : Host) :
    FailsWith [78] (load files env dir host) := by
  refine failsWith_bind (failsWith_foldlM (failsWith_addFile host files) _ standard) fun s => ?_
  refine failsWith_bind (failsWith_map s.under env.failsWith_overlay) fun s => ?_
  exact failsWith_ok _

theorem failsWith_text (s : Settings) : FailsWith [78] s.text := by
  unfold text
  split
  · exact failsWith_error List.mem_cons_self
  · exact failsWith_ok _

end Settings

/-! ### Documents -/

namespace Pipeline

theorem failsWith_ofSettings (s : Settings) (host : Host) :
    FailsWith [78] (ofSettings s host) := by
  unfold ofSettings
  split
  · exact failsWith_ok _
  · exact failsWith_error List.mem_cons_self

theorem failsWith_read (files : Files) (path : Text) : FailsWith [66, 74] (read files path) := by
  unfold read
  split
  · dsimp only
    split
    · exact failsWith_error (by simp [Failure.exitCode])
    · exact failsWith_ok _
  · exact failsWith_error (by simp [Failure.exitCode])
  · exact failsWith_error (by simp [Failure.exitCode])

theorem failsWith_parse (p : Pipeline) (t : Text) : FailsWith [66, 74] (p.parse t) := by
  unfold parse
  split
  · exact failsWith_error (by simp [Failure.exitCode])
  · exact failsWith_ok _

theorem failsWith_create (p : Pipeline) (files : Files) (path : Text) :
    FailsWith [66, 74] (p.create files path) :=
  failsWith_bind (failsWith_read files path) fun t => p.failsWith_parse (p.preprocess t)

end Pipeline

/-! ### Expressions -/

/-- Malformed expressions and unknown operators are faults of the data. -/
theorem failsWith_mapError_ofExpr {α : Type} (x : Except Expr.Error α) :
    FailsWith [65] (x.mapError Failure.ofExpr) := by
  cases x with
  | ok a => exact failsWith_ok a
  | error e => cases e <;> exact failsWith_error List.mem_cons_self

end Prose
