import Prose.Proofs.Toml.Document
import Prose.Settings.Basic

/-!
# Written settings read back

The written form of the settings is a document with every setting at the place where an overlay
looks for it, so as an overlay it replaces whatever settings it is laid over
(`text_eq_error_iff_and_ofText?_text`). Only a count above the signed 64-bit range has no written
form.
-/

namespace Prose.Settings

open Toml

/-- The entries of the written form. -/
def entries (s : Settings) : List (Text × Value) :=
  [("input_path".toList, .string s.inputPath),
    ("min_words".toList, .integer s.minWords),
    ("order_symbol".toList, .string [s.orderSymbol]),
    ("vowels".toList, .string s.vowels),
    ("preprocess".toList, .table [("enabled".toList, .boolean s.preprocess)]),
    ("parser".toList, .table [("paragraph_delimiter".toList, .string s.delimiter)])]

/-- The settings that are written out specify all six. -/
def overlay (s : Settings) : Overlay where
  inputPath := some s.inputPath
  minWords := some s.minWords
  orderSymbol := some s.orderSymbol
  vowels := some s.vowels
  preprocess := some s.preprocess
  delimiter := some s.delimiter

theorem ofEntries?_entries (s : Settings) : Overlay.ofEntries? s.entries = some s.overlay := by
  rfl

theorem under_overlay (s base : Settings) : base.under s.overlay = s :=
  rfl

section

variable {d d' d'' : Draft} {t : Text}

theorem leads_entry (key : String) {value : Text} {v : Value} (hNe : key.toList ≠ [])
    (hBare : key.toList.all Piece.isBare) (hValue : v.IsWritten value)
    (hInsert : d.insert ⟨[], key.toList⟩ v = some d') : d.Leads (entry key value) d' := by
  have hLine := Draft.leads_entry hNe (List.all_eq_true.1 hBare) hValue hInsert
  simpa [entry] using hLine

/-- One more entry behind the lines read so far. -/
theorem leads_append_entry (key : String) {value : Text} {v : Value} (h : d.Leads t d')
    (hNe : key.toList ≠ []) (hBare : key.toList.all Piece.isBare) (hValue : v.IsWritten value)
    (hInsert : d'.insert ⟨[], key.toList⟩ v = some d'') : d.Leads (t ++ entry key value) d'' :=
  h.append (leads_entry key hNe hBare hValue hInsert)

/-- One more section behind the lines read so far. -/
theorem leads_append_section (name : String) (h : d.Leads t d') (hNe : name.toList ≠ [])
    (hBare : name.toList.all Piece.isBare)
    (hOpen : d'.openHeader false ⟨[], name.toList⟩ = some d'') :
    d.Leads (t ++ '\n' :: '[' :: (name.toList ++ [']', '\n'])) d'' :=
  h.append ((Draft.leads_feed d').append
    (Draft.leads_header hNe (List.all_eq_true.1 hBare) hOpen))

end

/-- The written form is a document with these entries. -/
theorem ofText?_text {s : Settings} {t : Text} (h : s.text = .ok t) :
    Toml.ofText? t = some s.entries := by
  unfold text at h
  split at h
  · cases h
  next hRange =>
    have hCount : s.minWords < 2 ^ 63 := by simpa [Nat.shiftLeft_eq] using hRange
    rw [Except.ok.injEq] at h
    subst h
    have hPath := leads_entry (d := ⟨[], []⟩) "input_path" (by simp) (by decide)
      (isWritten_string s.inputPath) rfl
    have hWords := leads_append_entry "min_words" hPath (by simp) (by decide)
      (isWritten_integer hCount) rfl
    have hSymbol := leads_append_entry "order_symbol" hWords (by simp) (by decide)
      (isWritten_string [s.orderSymbol]) rfl
    have hVowels := leads_append_entry "vowels" hSymbol (by simp) (by decide)
      (isWritten_string s.vowels) rfl
    have hPreprocess := leads_append_section "preprocess" hVowels (by simp) (by decide) rfl
    have hEnabled := leads_append_entry "enabled" hPreprocess (by simp) (by decide)
      (isWritten_boolean s.preprocess) rfl
    have hParser := leads_append_section "parser" hEnabled (by simp) (by decide) rfl
    have hDelimiter := leads_append_entry "paragraph_delimiter" hParser (by simp)
      (by decide) (isWritten_string s.delimiter) rfl
    exact ofText?_of_leads hDelimiter (by simp [entry])

theorem exists_error_text_iff (s : Settings) :
    (∃ failure, s.text = .error failure) ↔ 2 ^ 63 - 1 < s.minWords := by
  have hLimit : 1 <<< 63 ≤ s.minWords ↔ 2 ^ 63 - 1 < s.minWords := by
    rw [Nat.shiftLeft_eq]
    omega
  rw [← hLimit, text]
  split
  next hRange => exact iff_of_true ⟨_, rfl⟩ hRange
  next hRange => exact iff_of_false (fun ⟨_, h⟩ => nomatch h) hRange

/-- Exactly a count above the signed 64-bit range has no written form. Any other settings come back
from it, whatever settings it is laid over. -/
theorem text_eq_error_iff_and_ofText?_text (s : Settings) :
    ((∃ failure, s.text = .error failure) ↔ 2 ^ 63 - 1 < s.minWords) ∧
      ∀ t, s.text = .ok t →
        ∃ o, Overlay.ofText? t = some o ∧ ∀ base : Settings, base.under o = s := by
  refine ⟨s.exists_error_text_iff, fun t hText => ⟨s.overlay, ?_, s.under_overlay⟩⟩
  rw [Overlay.ofText?, ofText?_text hText]
  exact s.ofEntries?_entries

/-- Settings with all marks, a control, line ends and the largest count that can be written. -/
theorem ofText?_text_with_marks :
    let s : Settings :=
      { inputPath := "\"\"\"a'''\x01\r\n".toList, minWords := 2 ^ 63 - 1, orderSymbol := '\'',
        vowels := "''\n''".toList, preprocess := false, delimiter := "\\s'\"+".toList }
    ∃ t, s.text = .ok t ∧
      ∃ o, Overlay.ofText? t = some o ∧ ∀ base : Settings, base.under o = s := by
  intro s
  exact ⟨_, rfl, (text_eq_error_iff_and_ofText?_text s).2 _ rfl⟩

end Prose.Settings
