import Prose.Proofs.Command.Failure

/-!
# All or nothing

A session that takes its fallible steps before it writes has written nothing when it fails
(`Session.AbortsWith`). Every command is such a session, so a failing run leaves its message alone,
and its exit code is one of those that its command has (`run_eq_failure_and_code_mem`).
-/

namespace Prose

namespace Session

/-- Every failure of the session has one of the exit codes, and then nothing has been written. -/
def AbortsWith {α : Type} (codes : List Nat) (x : Session α) : Prop :=
  ∀ r f written, x.runAfter r = (.error f, written) → f.exitCode ∈ codes ∧ written = r

section

variable {α β : Type} {codes : List Nat}

theorem abortsWith_pure (a : α) : AbortsWith codes (pure a) := by
  intro r f written h
  cases h

theorem abortsWith_throw {failure : Failure} (h : failure.exitCode ∈ codes) :
    AbortsWith codes (throw failure : Session α) := by
  intro r f written hThrow
  cases hThrow
  exact ⟨h, rfl⟩

theorem abortsWith_write (r : Report) : AbortsWith codes (write r) := by
  intro r f written h
  cases h

/-- A step without writing may come first. -/
theorem abortsWith_lift_bind {x : Except Failure α} {k : α → Session β}
    (hx : FailsWith codes x) (hk : ∀ a, AbortsWith codes (k a)) :
    AbortsWith codes (liftM x >>= k) := by
  intro r f written h
  cases x with
  | error e =>
    cases h
    exact ⟨hx _ rfl, rfl⟩
  | ok a => exact hk a r f written h

/-- Behind what is written nothing may fail. -/
theorem abortsWith_write_bind {r : Report} {k : Unit → Session α} (hk : AbortsWith [] (k ())) :
    AbortsWith codes (write r >>= k) := by
  intro r' f written h
  exact absurd (hk _ f written h).1 List.not_mem_nil

end

end Session

/-- The exit codes of the failures of a command. -/
def Command.codes : Command → List Nat
  | .completion _ => []
  | .eval _ => [65]
  | .config _ => [78]
  | .preprocess _ => [66, 74, 78]
  | .task _ _ => [66, 74, 78]

theorem Command.eq_of_mem_codes {command : Command} {code : Nat} (h : code ∈ command.codes) :
    code = 65 ∨ code = 66 ∨ code = 74 ∨ code = 78 := by
  cases command <;> simp only [codes, List.mem_cons, List.not_mem_nil, or_false] at h <;> omega

def CommandLine.codes (line : CommandLine) : List Nat :=
  match line.command with
  | none => [64]
  | some command => command.codes

namespace Surroundings

open Session

variable (w : Surroundings)

theorem abortsWith_showSettings (dir : Option Text) (s : Settings) (view : SettingsView) :
    AbortsWith [78] (w.showSettings dir s view) := by
  cases view with
  | values => exact abortsWith_lift_bind s.failsWith_text fun t => abortsWith_write _
  | template => exact abortsWith_write _
  | paths =>
    refine abortsWith_write_bind ?_
    cases dir with
    | none => exact abortsWith_pure ()
    | some dir => exact abortsWith_write _

theorem abortsWith_showValue (expression : Text) : AbortsWith [65] (w.showValue expression) := by
  refine abortsWith_lift_bind (failsWith_mapError_ofExpr _) fun e => ?_
  refine abortsWith_lift_bind (failsWith_mapError_ofExpr _) fun value => ?_
  exact abortsWith_write_bind (abortsWith_write _)

/-- What is made of a text file by a pipeline is written at the end. -/
theorem abortsWith_pipeline {α : Type} {make : Settings → Pipeline → Except Failure α}
    {report : Settings → Pipeline → α → Report} (dir : Option Text)
    (hMake : ∀ s p, FailsWith [66, 74] (make s p)) :
    AbortsWith [66, 74, 78] (do
      let s ← Settings.load w.files w.environment dir w.host
      let p ← Pipeline.ofSettings s w.host
      let a ← make s p
      write (report s p a)) := by
  refine abortsWith_lift_bind ((Settings.failsWith_load _ _ dir _).mono (by simp)) fun s => ?_
  refine abortsWith_lift_bind ((Pipeline.failsWith_ofSettings s _).mono (by simp)) fun p => ?_
  exact abortsWith_lift_bind ((hMake s p).mono (by simp)) fun a => abortsWith_write _

theorem abortsWith_perform (dir : Option Text) (command : Command) :
    AbortsWith command.codes (w.perform dir command) := by
  cases command with
  | completion shell => exact abortsWith_write _
  | eval expression => exact w.abortsWith_showValue expression
  | config view =>
    exact abortsWith_lift_bind (Settings.failsWith_load _ _ dir _) fun s =>
      w.abortsWith_showSettings dir s view
  | preprocess file =>
    exact w.abortsWith_pipeline dir fun s p =>
      Pipeline.failsWith_read w.files (file.getD s.inputPath)
  | task task file =>
    exact w.abortsWith_pipeline dir fun s p => p.failsWith_create w.files (file.getD s.inputPath)

variable (line : CommandLine)

theorem abortsWith_execute : AbortsWith line.codes (w.execute line) := by
  unfold execute CommandLine.codes
  cases line.command with
  | none => exact abortsWith_throw List.mem_cons_self
  | some command => exact w.abortsWith_perform _ command

/-- A failing run has written its message alone. -/
theorem run_eq_of_error {f : Failure} {written : Report}
    (h : (w.execute line).runAfter .empty = (.error f, written)) :
    written = .empty ∧ w.run line = ⟨f.exitCode, .failure w.colored f.message⟩ := by
  have hWritten : written = .empty := (w.abortsWith_execute line _ _ _ h).2
  rw [run, h, hWritten]
  exact ⟨rfl, rfl⟩

theorem code_run_mem : (w.run line).code ∈ 0 :: line.codes := by
  unfold run
  split
  next => exact List.mem_cons_self
  next h => exact List.mem_cons_of_mem 0 (w.abortsWith_execute line _ _ _ h).1

theorem code_run_of_none (h : line.command = none) : (w.run line).code = 64 := by
  unfold run execute
  rw [h]
  rfl

/-- A run that fails has written its message alone. The exit code is the one for a missing command
or one of those that the command has, and never the one for faults of the tree contract. -/
theorem run_eq_failure_and_code_mem :
    (∀ f written, (w.execute line).runAfter .empty = (.error f, written) → written = .empty ∧
      w.run line = ⟨f.exitCode, ⟨[],
        Paint.boldRed.apply w.colored "error".toList ++ ": ".toList ++ f.message ++ ['\n']⟩⟩) ∧
    ((w.run line).code = 64 ↔ line.command = none) ∧
    (∀ command, line.command = some command → (w.run line).code ∈ 0 :: command.codes) ∧
    (w.run line).code ≠ 70 := by
  have hCode := w.code_run_mem line
  refine ⟨fun f written => w.run_eq_of_error line, ?_⟩
  cases hCommand : line.command with
  | none =>
    have hUsage := w.code_run_of_none line hCommand
    refine ⟨iff_of_true hUsage rfl, by simp, ?_⟩
    rw [hUsage]
    decide
  | some command =>
    rw [CommandLine.codes, hCommand] at hCode
    have hOther : (w.run line).code ≠ 64 ∧ (w.run line).code ≠ 70 := by
      rcases List.mem_cons.1 hCode with hZero | hMem
      · omega
      · have := Command.eq_of_mem_codes hMem
        omega
    refine ⟨iff_of_false hOther.1 (fun h => nomatch h), fun other h => ?_, hOther.2⟩
    rw [← Option.some.inj h]
    exact hCode

/-- The postfix form of an expression without a value is not shown. -/
theorem run_eval_without_value :
    let w : Surroundings := ⟨fun _ => none, [], none, false, .builtin⟩
    let line : CommandLine := ⟨none, some (.eval "1+".toList)⟩
    w.run line = ⟨65, ⟨[], "error: expression syntax error: stack underflow\n".toList⟩⟩ ∧
      (w.run line).code ∈ [0, 65] := by
  intro w line
  have hFailure : (w.execute line).runAfter .empty =
      (.error (.expressionSyntax "stack underflow".toList), .empty) := by
    decide +kernel
  obtain ⟨hRun, -, hCodes, -⟩ := w.run_eq_failure_and_code_mem line
  exact ⟨(hRun _ _ hFailure).2, hCodes _ rfl⟩

end Surroundings

end Prose
