import Prose.Proofs.Expr.Remainder
import Prose.Proofs.Parse.Shape
import Prose.Proofs.Pipeline
import Prose.Proofs.Pipeline.Lines

/-!
# What becomes of a file

Whether a file has a document depends on the text that it reads as, its characters outside line
ends, and on nothing else (`create_of_readsAs`). Preprocessing has no say in it, as substitution
neither makes nor removes white space, and what is not white space is no part of a default
delimiter, so it stands in some paragraph (`exists_paragraph`).
-/

namespace Prose

open Parse Text

/-- At the path there is a file, which can be read or not. -/
def Files.IsFile (files : Files) (path : Text) : Prop :=
  ∃ e, files path = some e ∧ e ≠ .directory

/-- The file at the path can be read, and `t` is its text without line ends. -/
def Files.ReadsAs (files : Files) (path t : Text) : Prop :=
  ∃ content, files path = some (.file content) ∧ Pipeline.outsideLineEnds content = t

namespace Files

/-- At a path there is no file, a file that cannot be read, or a file that reads as some text. -/
theorem entry_cases (files : Files) (path : Text) : ¬ files.IsFile path ∨
    (∃ reason, files path = some (.unreadable reason)) ∨ ∃ t, files.ReadsAs path t := by
  cases hPath : files path with
  | none => exact .inl fun ⟨e, he, _⟩ => by simp [hPath] at he
  | some e =>
    cases e with
    | file content => exact .inr (.inr ⟨_, content, hPath, rfl⟩)
    | unreadable reason => exact .inr (.inl ⟨reason, rfl⟩)
    | directory => exact .inl fun ⟨e, he, hNe⟩ => hNe (by simpa [hPath] using he.symm)

end Files

namespace Pipeline

variable {p : Pipeline} {files : Files} {path t : Text}

theorem ofSettings_eq_ok_iff {s : Settings} {host : Host} :
    ofSettings s host = .ok p ↔
      host.compile s.delimiter = .ok p.delimiter ∧ p.substitutes = s.preprocess := by
  obtain ⟨delimiter, substitutes⟩ := p
  unfold ofSettings
  cases host.compile s.delimiter <;> simp [eq_comm]

/-- Preprocessing is switched on and off without a change of the delimiter. -/
theorem ofSettings_with_preprocess {s : Settings} {host : Host} (b : Bool)
    (h : ofSettings s host = .ok p) :
    ofSettings { s with preprocess := b } host = .ok { p with substitutes := b } := by
  rw [ofSettings_eq_ok_iff] at h ⊢
  exact ⟨h.1, rfl⟩

/-- Preprocessing neither makes nor removes a text of white space. -/
theorem all_isSpace_preprocess (p : Pipeline) (t : Text) :
    (p.preprocess t).all isSpace = t.all isSpace := by
  unfold preprocess
  split
  · exact Expr.Embedded.all_isSpace_substitute t
  · rfl

/-! ### One file -/

theorem read_of_not_isFile (h : ¬ files.IsFile path) :
    read files path = .error (.missingInput ("file not found: ".toList ++ path)) := by
  cases hPath : files path with
  | none => rw [read, hPath]
  | some e =>
    cases e with
    | directory => rw [read, hPath]
    | file content => exact absurd ⟨_, hPath, by simp⟩ h
    | unreadable reason => exact absurd ⟨_, hPath, by simp⟩ h

theorem read_of_unreadable {reason : Text} (h : files path = some (.unreadable reason)) :
    read files path = .error (.operationFailed ("read input: ".toList ++ path) reason) := by
  rw [read, h]

theorem read_of_readsAs (h : files.ReadsAs path t) : read files path =
    if t = [] then .error (.missingInput ("no text in ".toList ++ path)) else .ok t := by
  obtain ⟨content, hFile, rfl⟩ := h
  rw [read, hFile, ← joinLines_eq_outsideLineEnds]
  simp only [List.isEmpty_iff]

theorem read_eq_ok_iff : read files path = .ok t ↔ files.ReadsAs path t ∧ t ≠ [] := by
  constructor
  · intro h
    rcases files.entry_cases path with hNo | ⟨reason, hReason⟩ | ⟨u, hReads⟩
    · rw [read_of_not_isFile hNo] at h
      cases h
    · rw [read_of_unreadable hReason] at h
      cases h
    · rw [read_of_readsAs hReads] at h
      split at h
      next => cases h
      next hNe =>
        cases h
        exact ⟨hReads, hNe⟩
  · rintro ⟨hReads, hNe⟩
    rw [read_of_readsAs hReads, if_neg hNe]

theorem create_of_read_eq_error {f : Failure} (h : read files path = .error f) :
    p.create files path = .error f := by
  rw [create, h]
  rfl

/-- Only the text that a file reads as decides whether it has a document. -/
theorem create_of_readsAs (h : files.ReadsAs path t) : p.create files path =
    if t = [] then .error (.missingInput ("no text in ".toList ++ path))
    else if t.all isSpace then .error (.missingInput "empty text".toList)
    else .ok (document p.delimiter (p.preprocess t)) := by
  rw [create, read_of_readsAs h]
  split
  · rfl
  · simp only [bind, Except.bind, parse, all_isSpace_preprocess]

/-- What is no white space stands in a paragraph when only blanks delimit paragraphs. -/
theorem exists_paragraph {delimiter : Pattern} (hBlank : delimiter.Consumes isBlank)
    (h : t.all isSpace = false) :
    ∃ q ∈ (document delimiter t).children, q.kind = .composite .paragraph := by
  obtain ⟨c, hc, hSpace⟩ := List.all_eq_false.1 h
  have hVisible : isBlank c = false := by
    by_contra hNot
    exact hSpace (isSpace_of_isBlank (by simpa using hNot))
  have hKept : c ∈ (splitParagraphs delimiter t).flatten :=
    (loses_splitParagraphs hBlank t).mem_of_mem hc hVisible
  obtain ⟨s, hs, -⟩ := List.mem_flatten.1 hKept
  exact ⟨paragraph s, List.mem_map_of_mem hs, rfl⟩

/-! ### All files -/

/-- Why a file has no document. -/
inductive Refuses (files : Files) (path : Text) : Failure → Prop
  | notFound : ¬ files.IsFile path →
      Refuses files path (.missingInput ("file not found: ".toList ++ path))
  | unreadable {reason : Text} : files path = some (.unreadable reason) →
      Refuses files path (.operationFailed ("read input: ".toList ++ path) reason)
  | noText : files.ReadsAs path [] →
      Refuses files path (.missingInput ("no text in ".toList ++ path))
  | emptyText {t : Text} : files.ReadsAs path t → t ≠ [] → (∀ c ∈ t, isSpace c) →
      Refuses files path (.missingInput "empty text".toList)

theorem create_eq_error_of_refuses {f : Failure} (h : Refuses files path f) :
    p.create files path = .error f := by
  cases h with
  | notFound hNo => exact create_of_read_eq_error (read_of_not_isFile hNo)
  | unreadable hReason => exact create_of_read_eq_error (read_of_unreadable hReason)
  | noText hReads => rw [create_of_readsAs hReads, if_pos rfl]
  | emptyText hReads hNe hSpace =>
    rw [create_of_readsAs hReads, if_neg hNe, if_pos (List.all_eq_true.2 hSpace)]

theorem create_of_visible (hReads : files.ReadsAs path t) (hVisible : ∃ c ∈ t, isSpace c = false) :
    p.create files path = .ok (document p.delimiter (p.preprocess t)) := by
  obtain ⟨c, hc, hSpace⟩ := hVisible
  have hNe : t ≠ [] := List.ne_nil_of_mem hc
  have hAll : t.all isSpace = false := List.all_eq_false.2 ⟨c, hc, by simp [hSpace]⟩
  rw [create_of_readsAs hReads, if_neg hNe, hAll]
  rfl

/-- A file has a reason against it or a text with a character that is no white space. -/
theorem refuses_or_visible (files : Files) (path : Text) : (∃ f, Refuses files path f) ∨
    ∃ t, files.ReadsAs path t ∧ ∃ c ∈ t, isSpace c = false := by
  rcases files.entry_cases path with hNo | ⟨reason, hReason⟩ | ⟨t, hReads⟩
  · exact .inl ⟨_, .notFound hNo⟩
  · exact .inl ⟨_, .unreadable hReason⟩
  · by_cases hNil : t = []
    · subst hNil
      exact .inl ⟨_, .noText hReads⟩
    · by_cases hSpace : ∀ c ∈ t, isSpace c
      · exact .inl ⟨_, .emptyText hReads hNil hSpace⟩
      · simp only [not_forall, Bool.not_eq_true] at hSpace
        obtain ⟨c, hc, hNot⟩ := hSpace
        exact .inr ⟨t, hReads, c, hc, hNot⟩

theorem create_eq_error_iff {f : Failure} :
    p.create files path = .error f ↔ Refuses files path f := by
  refine ⟨fun h => ?_, create_eq_error_of_refuses⟩
  rcases refuses_or_visible files path with ⟨g, hRefuses⟩ | ⟨t, hReads, hVisible⟩
  · rw [create_eq_error_of_refuses hRefuses] at h
    rwa [← Except.error.inj h]
  · rw [create_of_visible hReads hVisible] at h
    cases h

/-- The reasons are told apart by what the message starts with. -/
theorem refuses_missingInput_iff {detail : Text} : Refuses files path (.missingInput detail) ↔
    (detail = "file not found: ".toList ++ path ∧ ¬ files.IsFile path) ∨
    (detail = "no text in ".toList ++ path ∧ files.ReadsAs path []) ∨
    (detail = "empty text".toList ∧
      ∃ t, files.ReadsAs path t ∧ t ≠ [] ∧ ∀ c ∈ t, isSpace c) := by
  constructor
  · intro h
    cases h with
    | notFound hNo => exact .inl ⟨rfl, hNo⟩
    | noText hReads => exact .inr (.inl ⟨rfl, hReads⟩)
    | emptyText hReads hNe hSpace => exact .inr (.inr ⟨rfl, _, hReads, hNe, hSpace⟩)
  · rintro (⟨rfl, hNo⟩ | ⟨rfl, hReads⟩ | ⟨rfl, t, hReads, hNe, hSpace⟩)
    · exact .notFound hNo
    · exact .noText hReads
    · exact .emptyText hReads hNe hSpace

theorem refuses_operationFailed_iff {context source : Text} :
    Refuses files path (.operationFailed context source) ↔
      context = "read input: ".toList ++ path ∧ files path = some (.unreadable source) := by
  constructor
  · intro h
    cases h with
    | unreadable hReason => exact ⟨rfl, hReason⟩
  · rintro ⟨rfl, hReason⟩
    exact .unreadable hReason

theorem create_eq_ok_iff : (∃ D, p.create files path = .ok D) ↔
    ∃ t, files.ReadsAs path t ∧ ∃ c ∈ t, isSpace c = false := by
  constructor
  · rintro ⟨D, h⟩
    refine (refuses_or_visible files path).resolve_left ?_
    rintro ⟨f, hRefuses⟩
    rw [create_eq_error_of_refuses hRefuses] at h
    cases h
  · rintro ⟨t, hReads, hVisible⟩
    exact ⟨_, create_of_visible hReads hVisible⟩

/-- A document has a paragraph when only blanks delimit paragraphs. -/
theorem exists_paragraph_of_create (hBlank : p.delimiter.Consumes isBlank) {D : Node}
    (hD : p.create files path = .ok D) : ∃ q ∈ D.children, q.kind = .composite .paragraph := by
  obtain ⟨t, hReads, hVisible⟩ := create_eq_ok_iff.1 ⟨D, hD⟩
  rw [create_of_visible hReads hVisible] at hD
  obtain rfl := Except.ok.inj hD
  obtain ⟨c, hc, hSpace⟩ := hVisible
  refine exists_paragraph hBlank ?_
  rw [all_isSpace_preprocess]
  exact List.all_eq_false.2 ⟨c, hc, by simp [hSpace]⟩

/-- The outcome for a file, case by case: each failure has its own cause, and there is a document
exactly when the text of the file has a character that is no white space. None of this depends on
preprocessing, which settings switch on and off without a change of the delimiter. With the default
delimiter a document has a paragraph. -/
theorem create_outcome (p : Pipeline) (files : Files) (path : Text) :
    (p.create files path = .error (.missingInput ("file not found: ".toList ++ path)) ↔
      ¬ files.IsFile path) ∧
    (∀ context source, p.create files path = .error (.operationFailed context source) ↔
      context = "read input: ".toList ++ path ∧ files path = some (.unreadable source)) ∧
    (p.create files path = .error (.missingInput ("no text in ".toList ++ path)) ↔
      files.ReadsAs path []) ∧
    (p.create files path = .error (.missingInput "empty text".toList) ↔
      ∃ t, files.ReadsAs path t ∧ t ≠ [] ∧ ∀ c ∈ t, isSpace c) ∧
    ((∃ D, p.create files path = .ok D) ↔
      ∃ t, files.ReadsAs path t ∧ ∃ c ∈ t, isSpace c = false) ∧
    (∀ b, (∀ s host, ofSettings s host = .ok p →
        ofSettings { s with preprocess := b } host = .ok { p with substitutes := b }) ∧
      ∀ f, { p with substitutes := b }.create files path = .error f ↔
        p.create files path = .error f) ∧
    (Pattern.ofText? defaultDelimiter = some p.delimiter → ∀ D, p.create files path = .ok D →
      ∃ q ∈ D.children, q.kind = .composite .paragraph) := by
  refine ⟨?_, fun context source => create_eq_error_iff.trans refuses_operationFailed_iff, ?_, ?_,
    create_eq_ok_iff, fun b => ⟨fun s host => ofSettings_with_preprocess b, fun f => ?_⟩,
    fun hDefault D hD => ?_⟩
  · rw [create_eq_error_iff, refuses_missingInput_iff]
    simp
  · rw [create_eq_error_iff, refuses_missingInput_iff]
    simp
  · rw [create_eq_error_iff, refuses_missingInput_iff]
    simp
  · rw [create_eq_error_iff, create_eq_error_iff]
  · rw [ofText?_defaultDelimiter, Option.some.injEq] at hDefault
    refine exists_paragraph_of_create ?_ hD
    rw [← hDefault]
    exact consumes_paragraphBreak

/-- A file with a no-break space and line ends has no document, and one with an expression has
one. -/
theorem create_outcome_of_two_files :
    let files : Files := fun path =>
      if path = ['a'] then some (.file "\r\n\xa0\n".toList)
      else if path = ['b'] then some (.file " 2*3\r\n".toList) else none
    let p : Pipeline := ⟨paragraphBreak, true⟩
    p.create files ['a'] = .error (.missingInput "empty text".toList) ∧
      Pattern.ofText? defaultDelimiter = some p.delimiter ∧
      ∃ D, p.create files ['b'] = .ok D ∧ ∃ q ∈ D.children, q.kind = .composite .paragraph := by
  intro files p
  obtain ⟨-, -, -, hEmpty, -⟩ := p.create_outcome files ['a']
  obtain ⟨-, -, -, -, hOk, -, hParagraph⟩ := p.create_outcome files ['b']
  have hSpaces : files.ReadsAs ['a'] ['\xa0'] := ⟨_, rfl, by decide⟩
  have hProduct : files.ReadsAs ['b'] " 2*3".toList := ⟨_, rfl, by decide⟩
  obtain ⟨D, hD⟩ := hOk.2 ⟨_, hProduct, '2', by decide, by decide⟩
  exact ⟨hEmpty.2 ⟨_, hSpaces, by decide, List.all_eq_true.1 rfl⟩, ofText?_defaultDelimiter, D, hD,
    hParagraph ofText?_defaultDelimiter D hD⟩

end Pipeline

end Prose
