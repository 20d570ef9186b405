import Prose.Command.Run
import Prose.Proofs.Result
import Prose.Proofs.Text.Decimal
import Prose.Proofs.Text.Quoted

/-!
# All analyses and each by itself

A command on a text file loads the settings, makes something of the file with them and writes a
report at the end (`run_eq_of_execute`). All tasks make the same document, so they fail together and
in the same way. The report of all analyses is made of the reports of each by itself, behind one
header line each (`run_run_eq`); only the warning that there is no word is left out.
-/

namespace Prose

theorem Failure.exitCode_ne_zero (f : Failure) : f.exitCode ≠ 0 := by
  cases f <;> simp [exitCode]

/-! ### Lines -/

/-- A line with its line feed, and no other line feed. -/
def IsOneLine (t : Text) : Prop :=
  ∃ u, '\n' ∉ u ∧ t = u ++ ['\n']

theorem Paint.not_mem_apply (paint : Paint) (colored : Bool) {t : Text} (h : '\n' ∉ t) :
    '\n' ∉ paint.apply colored t := by
  unfold apply
  split
  · have hCode : '\n' ∉ paint.code := by cases paint <;> decide
    simp only [List.mem_append, not_or]
    exact ⟨⟨⟨⟨by decide, hCode⟩, by decide⟩, h⟩, by decide⟩
  · exact h

namespace Report

theorem concat_eq (rs : List Report) : concat rs = ⟨rs.flatMap out, rs.flatMap err⟩ := by
  induction rs with
  | nil => rfl
  | cons r rs ih =>
    have hCons : concat (r :: rs) = r ++ concat rs := rfl
    rw [hCons, ih, List.flatMap_cons, List.flatMap_cons]
    rfl

theorem err_concat_eq_nil {rs : List Report} (h : ∀ r ∈ rs, r.err = []) : (concat rs).err = [] := by
  rw [concat_eq]
  exact List.flatMap_eq_nil_iff.2 h

end Report

namespace Task

/-! ### The parts of the report -/

/-- The header line in front of an analysis. -/
def headerLine (colored : Bool) (title : Text) : Text :=
  (Report.header colored ("=== ".toList ++ title ++ " ===".toList)).out

/-- The analyses in the order of the report, each with its title. -/
def sections (s : Settings) : List (Text × Task) :=
  [("Original text".toList, .parse),
    ("Paragraphs sorted by number of sentences".toList, .sortParagraphs),
    ("Words sorted by length".toList, .sortWords),
    ("Lexemes reverse-sorted by occurrences of ".toList ++ Quoted.char s.orderSymbol,
      .sortLexemes none),
    ("Sentences with the longest word".toList, .longest),
    ("Sentences with at least ".toList ++ Decimal.ofNat s.minWords ++ " words".toList,
      .filter none),
    ("Duplicate words".toList, .duplicates),
    ("Vowels and consonants per sentence".toList, .vowels)]

/-- The line behind the last analysis. -/
def successLine (colored : Bool) : Text :=
  (Report.success colored "text processing completed".toList).out

theorem isOneLine_headerLine (colored : Bool) {title : Text} (h : '\n' ∉ title) :
    IsOneLine (headerLine colored title) := by
  refine ⟨_, Paint.not_mem_apply .boldCyan colored ?_, rfl⟩
  simp only [List.mem_append, not_or]
  exact ⟨⟨by decide, h⟩, by decide⟩

theorem isOneLine_successLine (colored : Bool) : IsOneLine (successLine colored) := by
  refine ⟨Paint.green.apply colored ['✓'] ++ ' ' :: "text processing completed".toList, ?_, rfl⟩
  rw [List.mem_append, not_or]
  exact ⟨Paint.not_mem_apply .green colored (by decide), by decide⟩

/-- No title has a line feed, whatever the order symbol is. -/
theorem not_mem_title (s : Settings) : ∀ part ∈ sections s, '\n' ∉ part.1 := by
  have hSymbol : '\n' ∉
      "Lexemes reverse-sorted by occurrences of ".toList ++ Quoted.char s.orderSymbol := by
    rw [List.mem_append, not_or]
    exact ⟨by decide, Quoted.not_mem_char s.orderSymbol⟩
  have hCount : '\n' ∉ Decimal.ofNat s.minWords := by
    intro hMem
    cases Decimal.isDigit_of_mem_ofNat hMem
  have hLeast : '\n' ∉
      "Sentences with at least ".toList ++ Decimal.ofNat s.minWords ++ " words".toList := by
    simp only [List.mem_append, not_or]
    exact ⟨⟨by decide, hCount⟩, by decide⟩
  simp only [sections, List.forall_mem_cons]
  exact ⟨by decide, by decide, by decide, hSymbol, by decide, hLeast, by decide, by decide, nofun⟩

theorem err_listSentences (sentences : List Node) : (listSentences sentences).err = [] :=
  Report.err_concat_eq_nil (List.forall_mem_map.2 fun _ _ => rfl)

theorem err_vowelsReport (vowels : VowelSet) (document : Node) :
    (vowelsReport vowels document).err = [] :=
  Report.err_concat_eq_nil (List.forall_mem_map.2 fun _ _ => rfl)

/-- A warning is not on the standard output. -/
theorem out_longestReport (colored : Bool) (document : Node) :
    (longestReport colored document).out = (listSentences document.longestSentences).out := by
  simp only [longestReport]
  split <;> rfl

variable (colored : Bool) (s : Settings) (document : Node)

theorem out_runReport : (runReport colored s document).out =
    (sections s).flatMap (fun part =>
      headerLine colored part.1 ++ (part.2.report colored s document).out) ++
      successLine colored := by
  simp only [runReport, Report.concat_eq, sections, List.flatMap_cons, List.flatMap_nil,
    List.append_nil, List.append_assoc, report, out_longestReport, Option.getD_none, headerLine,
    successLine]

theorem err_runReport : (runReport colored s document).err =
    (duplicatesReport colored document).err := by
  simp only [runReport, Report.concat_eq, List.flatMap_cons, List.flatMap_nil, err_listSentences,
    err_vowelsReport, List.append_nil, List.nil_append, Report.header, Report.line, Report.success]

end Task

/-- A session that takes a step without writing goes on with its result or fails with it. -/
theorem Session.runAfter_lift_bind {α β : Type} (x : Except Failure α) (k : α → Session β)
    (r : Report) : runAfter (liftM x >>= k) r =
      match x with
      | .ok a => (k a).runAfter r
      | .error f => (.error f, r) := by
  cases x <;> rfl

namespace Surroundings

variable (w : Surroundings)

/-- What a step makes with the settings of a directory and their pipeline. -/
def made {α : Type} (dir : Option Text) (step : Settings → Pipeline → Except Failure α) :
    Except Failure (Settings × Pipeline × α) := do
  let s ← Settings.load w.files w.environment dir w.host
  let p ← Pipeline.ofSettings s w.host
  let a ← step s p
  return (s, p, a)

theorem made_eq_ok_iff {α : Type} {dir : Option Text}
    {step : Settings → Pipeline → Except Failure α} {s : Settings} {p : Pipeline} {a : α} :
    w.made dir step = .ok (s, p, a) ↔
      Settings.load w.files w.environment dir w.host = .ok s ∧
      Pipeline.ofSettings s w.host = .ok p ∧ step s p = .ok a := by
  simp only [made, bind_eq_ok_iff]
  constructor
  · rintro ⟨s', hLoad, p', hSettings, a', hStep, h⟩
    cases h
    exact ⟨hLoad, hSettings, hStep⟩
  · rintro ⟨hLoad, hSettings, hStep⟩
    exact ⟨s, hLoad, p, hSettings, a, hStep, rfl⟩

/-- What is left of a run that writes its report at the end or fails before. -/
def conclude : Except Failure Report → Outcome
  | .ok report => ⟨0, report⟩
  | .error f => ⟨f.exitCode, .failure w.colored f.message⟩

/-- A command that makes something and reports it at the end. -/
theorem run_eq_of_execute {α : Type} {line : CommandLine} {dir : Option Text}
    (step : Settings → Pipeline → Except Failure α) (report : Settings → Pipeline → α → Report)
    (h : w.execute line = do
      let s ← Settings.load w.files w.environment dir w.host
      let p ← Pipeline.ofSettings s w.host
      let a ← step s p
      .write (report s p a)) :
    w.run line = w.conclude ((fun m => report m.1 m.2.1 m.2.2) <$> w.made dir step) := by
  rw [run, h, Session.runAfter_lift_bind, made]
  cases Settings.load w.files w.environment dir w.host with
  | error f => rfl
  | ok s =>
    dsimp only
    rw [Session.runAfter_lift_bind]
    simp only [bind, Except.bind]
    cases Pipeline.ofSettings s w.host with
    | error f => rfl
    | ok p =>
      dsimp only
      cases step s p with
      | error f => rfl
      | ok a => rfl

variable (dir file : Option Text)

/-- The settings of a command line and the document of the file that it reads. -/
def documentOf : Except Failure (Settings × Pipeline × Node) :=
  w.made (dir <|> w.directory) fun s p => p.create w.files (file.getD s.inputPath)

theorem run_task (task : Task) :
    w.run ⟨dir, some (.task task file)⟩ =
      w.conclude ((fun m => task.report w.colored m.1 m.2.2) <$> w.documentOf dir file) :=
  w.run_eq_of_execute (fun s p => p.create w.files (file.getD s.inputPath))
    (fun s _ document => task.report w.colored s document) rfl

/-- The run of all analyses succeeds exactly when the one that shows the text does, and fails like
it. Its standard output is the standard output of each by itself behind its header line, and one
line at the end. -/
theorem run_run_eq :
    let outcome (task : Task) : Outcome := w.run ⟨dir, some (.task task file)⟩
    ((outcome .run).code = 0 ↔ (outcome .parse).code = 0) ∧
    ((outcome .parse).code ≠ 0 → outcome .run = outcome .parse) ∧
    ((outcome .run).code = 0 → ∃ s,
      Settings.load w.files w.environment (dir <|> w.directory) w.host = .ok s ∧
      (Task.sections s).map Prod.snd = [.parse, .sortParagraphs, .sortWords, .sortLexemes none,
        .longest, .filter none, .duplicates, .vowels] ∧
      (∀ part ∈ Task.sections s,
        IsOneLine (Task.headerLine w.colored part.1) ∧ (outcome part.2).code = 0) ∧
      IsOneLine (Task.successLine w.colored) ∧
      (outcome .run).report.out = (Task.sections s).flatMap (fun part =>
        Task.headerLine w.colored part.1 ++ (outcome part.2).report.out) ++
        Task.successLine w.colored ∧
      (outcome .run).report.err = (outcome .duplicates).report.err) := by
  intro outcome
  -- the document does not depend on the task, so either all tasks stop before it or none does
  cases hDocument : w.documentOf dir file with
  | error f =>
    have hFails (task : Task) : outcome task = ⟨f.exitCode, .failure w.colored f.message⟩ := by
      show w.run _ = _
      rw [run_task, hDocument]
      rfl
    rw [hFails, hFails]
    exact ⟨Iff.rfl, fun _ => rfl, fun h => absurd h f.exitCode_ne_zero⟩
  | ok m =>
    obtain ⟨s, p, document⟩ := m
    have hWrites (task : Task) : outcome task = ⟨0, task.report w.colored s document⟩ := by
      show w.run _ = _
      rw [run_task, hDocument]
      rfl
    have hCode (task : Task) : (outcome task).code = 0 := by rw [hWrites]
    refine ⟨iff_of_true (hCode _) (hCode _), fun h => absurd (hCode _) h, fun _ => ?_⟩
    refine ⟨s, (w.made_eq_ok_iff.1 hDocument).1, rfl, fun part hPart => ⟨?_, hCode _⟩, ?_, ?_⟩
    · exact Task.isOneLine_headerLine w.colored (Task.not_mem_title s part hPart)
    · exact Task.isOneLine_successLine w.colored
    · simp only [hWrites]
      exact ⟨Task.out_runReport w.colored s document, Task.err_runReport w.colored s document⟩

/-- A text without a word that occurs twice, and a file that is not there. -/
theorem run_run_eq_of_one_file :
    let w : Surroundings :=
      ⟨fun path => if path = "in.txt".toList then some (.file "Go 2*3 on.".toList) else none,
        [], none, false, .builtin⟩
    let outcome (file : Text) (task : Task) : Outcome := w.run ⟨none, some (.task task (some file))⟩
    (outcome "in.txt".toList .parse).code = 0 ∧
    (outcome "in.txt".toList .run).code = 0 ∧
    (∃ s, (outcome "in.txt".toList .run).report.out = (Task.sections s).flatMap (fun part =>
      Task.headerLine false part.1 ++ (outcome "in.txt".toList part.2).report.out) ++
      Task.successLine false) ∧
    (outcome "out.txt".toList .parse).code ≠ 0 ∧
    outcome "out.txt".toList .run = outcome "out.txt".toList .parse := by
  intro w outcome
  have hShows : (outcome "in.txt".toList .parse).code = 0 := by decide +kernel
  have hFails : (outcome "out.txt".toList .parse).code ≠ 0 := by decide +kernel
  obtain ⟨hCode, -, hWrites⟩ := w.run_run_eq none (some "in.txt".toList)
  obtain ⟨s, -, -, -, -, hOut, -⟩ := hWrites (hCode.2 hShows)
  exact ⟨hShows, hCode.2 hShows, ⟨s, hOut⟩, hFails,
    (w.run_run_eq none (some "out.txt".toList)).2.1 hFails⟩

end Surroundings

end Prose
