import Prose.Proofs.Command.Task
import Prose.Proofs.Pipeline.Outcome

/-!
# Replaying a preprocessed text

What the preprocessing command prints is a text file again. The reader takes the preprocessed
text back from it (`readsAs_replay`), and that text stays as it is whether or not it is preprocessed
again (`preprocess_preprocess`). So the printed file has the document of the file that it was made
from, or none for the same reason (`create_replay`).
-/

namespace Prose

open Text

namespace Pipeline

variable {p : Pipeline} {files files' : Files} {path path' t : Text}

/-- A preprocessed text is not changed by preprocessing of any kind. -/
theorem preprocess_preprocess (h : p.substitutes = true) (q : Pipeline) (t : Text) :
    q.preprocess (p.preprocess t) = p.preprocess t := by
  have hOnce : p.preprocess t = Expr.Embedded.substitute t := if_pos h
  rw [hOnce, preprocess]
  split
  · exact (Expr.Embedded.settled_rewrite none t).rewrite_eq_self
  · rfl

theorem preprocess_ne_nil (h : t ≠ []) : p.preprocess t ≠ [] := by
  unfold preprocess
  split
  · exact Expr.Embedded.substitute_ne_nil h
  · exact h

theorem mem_preprocess_iff {c : Char} (h : Expr.Embedded.isExprChar c = false) :
    c ∈ p.preprocess t ↔ c ∈ t := by
  unfold preprocess
  split
  · exact Expr.Embedded.mem_substitute_iff h t
  · rfl

/-- The text that a file reads as, preprocessed and printed as a line, reads as itself. -/
theorem readsAs_replay (hReads : files.ReadsAs path t)
    (hReturn : (p.preprocess t).getLast? ≠ some '\r')
    (hReplay : files' path' = some (.file (p.preprocess t ++ ['\n']))) :
    files'.ReadsAs path' (p.preprocess t) := by
  obtain ⟨content, -, rfl⟩ := hReads
  refine ⟨_, hReplay, ?_⟩
  rw [← joinLines_eq_outsideLineEnds]
  refine joinLines_append_lineFeed ?_ hReturn
  -- a line feed is in no expression, so preprocessing has not brought one in
  rw [mem_preprocess_iff rfl, ← joinLines_eq_outsideLineEnds]
  exact not_mem_joinLines content

/-- Preprocessing leaves the delimiter alone, so the same text is cut into the same document. -/
theorem create_replay (h : p.substitutes = true) (hReads : files.ReadsAs path t) (hNe : t ≠ [])
    (hReturn : (p.preprocess t).getLast? ≠ some '\r')
    (hReplay : files' path' = some (.file (p.preprocess t ++ ['\n']))) (b : Bool) :
    { p with substitutes := b }.create files' path' = p.create files path := by
  rw [create_of_readsAs (readsAs_replay hReads hReturn hReplay), create_of_readsAs hReads,
    if_neg (preprocess_ne_nil hNe), if_neg hNe, all_isSpace_preprocess, preprocess_preprocess h]

theorem exists_missingInput {f : Failure} (hRead : read files path = .ok t)
    (h : p.create files path = .error f) : ∃ detail, f = .missingInput detail := by
  obtain ⟨hReads, hNe⟩ := read_eq_ok_iff.1 hRead
  rw [create_of_readsAs hReads, if_neg hNe] at h
  split at h
  next => exact ⟨_, (Except.error.inj h).symm⟩
  next => cases h

end Pipeline

namespace Surroundings

theorem run_preprocess (w : Surroundings) (dir file : Option Text) :
    w.run ⟨dir, some (.preprocess file)⟩ =
      w.conclude ((fun m => .line (m.2.1.preprocess m.2.2)) <$>
        w.made (dir <|> w.directory) fun s _ => Pipeline.read w.files (file.getD s.inputPath)) :=
  w.run_eq_of_execute (fun s _ => Pipeline.read w.files (file.getD s.inputPath))
    (fun _ p t => .line (p.preprocess t)) rfl

end Surroundings

namespace Pipeline

/-- The text `t` of a file is preprocessed and printed as one line. When that line is a file again,
it has the document of the first file with and without preprocessing, or it is refused for want of
text like that one. -/
theorem create_of_preprocessed {p : Pipeline} {files files' : Files} {path path' t : Text}
    (hEnabled : p.substitutes = true) (hRead : read files path = .ok t)
    (hReturn : (p.preprocess t).getLast? ≠ some '\r')
    (hReplay : files' path' = some (.file (p.preprocess t ++ ['\n']))) :
    (∀ (w : Surroundings) (dir file : Option Text) (s : Settings), w.files = files →
      Settings.load w.files w.environment (dir <|> w.directory) w.host = .ok s →
      ofSettings s w.host = .ok p → file.getD s.inputPath = path →
      w.run ⟨dir, some (.preprocess file)⟩ = ⟨0, ⟨p.preprocess t ++ ['\n'], []⟩⟩) ∧
    (∀ b, (∀ s host, ofSettings s host = .ok p →
        ofSettings { s with preprocess := b } host = .ok { p with substitutes := b }) ∧
      (∀ D, p.create files path = .ok D →
        { p with substitutes := b }.create files' path' = .ok D) ∧
      (∀ f, p.create files path = .error f →
        { p with substitutes := b }.create files' path' = .error f)) ∧
    (∀ f, p.create files path = .error f → ∃ detail, f = .missingInput detail) := by
  obtain ⟨hReads, hNe⟩ := read_eq_ok_iff.1 hRead
  refine ⟨?_, fun b => ?_, fun f hFails => exists_missingInput hRead hFails⟩
  · rintro w dir file s rfl hLoad hSettings rfl
    rw [Surroundings.run_preprocess, w.made_eq_ok_iff.2 ⟨hLoad, hSettings, hRead⟩]
    rfl
  · have hSame : { p with substitutes := b }.create files' path' = p.create files path :=
      create_replay hEnabled hReads hNe hReturn hReplay b
    exact ⟨fun s host => ofSettings_with_preprocess b, fun D hD => hSame.trans hD,
      fun f hFails => hSame.trans hFails⟩

/-- An expression that goes over a line end is printed as its value. -/
theorem create_of_preprocessed_sum :
    let files : Files := fun path =>
      if path = "in.txt".toList then some (.file "2*3\r\n+1 x".toList) else none
    let files' : Files := fun _ => some (.file "7 x\n".toList)
    let p : Pipeline := ⟨Parse.paragraphBreak, true⟩
    let t : Text := "2*3+1 x".toList
    p.substitutes = true ∧ ofSettings .standard = .ok p ∧
      read files "in.txt".toList = .ok t ∧ (p.preprocess t).getLast? ≠ some '\r' ∧
      files' "out.txt".toList = some (.file (p.preprocess t ++ ['\n'])) ∧
      Surroundings.run ⟨files, [], none, false, .builtin⟩
        ⟨none, some (.preprocess (some "in.txt".toList))⟩ = ⟨0, ⟨"7 x\n".toList, []⟩⟩ ∧
      ∃ D, p.create files "in.txt".toList = .ok D ∧
        ∀ b, ofSettings { Settings.standard with preprocess := b } =
            .ok { p with substitutes := b } ∧
          { p with substitutes := b }.create files' "out.txt".toList = .ok D := by
  intro files files' p t
  have hRead : read files "in.txt".toList = .ok t := by decide +kernel
  have hText : p.preprocess t = "7 x".toList := by decide +kernel
  have hReturn : (p.preprocess t).getLast? ≠ some '\r' := by
    rw [hText]
    decide
  have hReplay : files' "out.txt".toList = some (.file (p.preprocess t ++ ['\n'])) := by
    rw [hText]
    rfl
  obtain ⟨hPrints, hSame, -⟩ := create_of_preprocessed rfl hRead hReturn hReplay
  have hPrinted := hPrints ⟨files, [], none, false, .builtin⟩ none (some "in.txt".toList) .standard
    rfl (by decide +kernel) ofSettings_standard rfl
  rw [hText] at hPrinted
  obtain ⟨D, hD⟩ := create_eq_ok_iff.2 ⟨t, (read_eq_ok_iff.1 hRead).1, 'x', by decide, by decide⟩
  refine ⟨rfl, ofSettings_standard, hRead, hReturn, hReplay, hPrinted, D, hD, fun b => ?_⟩
  obtain ⟨hSettings, hOk, -⟩ := hSame b
  exact ⟨hSettings _ _ ofSettings_standard, hOk D hD⟩

end Pipeline

end Prose
