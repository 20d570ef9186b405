import Prose.Proofs.Settings.Environment
import Prose.Proofs.Settings.Expansion
import Prose.Settings.Load

/-!
# Layers of settings

A settings file gives a layer when it is absent or well-formed, and so does an environment whose
variables can be read. Loading the settings then succeeds, and each setting comes from the highest
layer that specifies it, whatever the layers say about the others; the input path is expanded
(`load_eq_ok`).
-/

namespace Prose.Settings

/-- The value of the first layer that specifies one. -/
def resolve {α : Type} (pick : Overlay → Option α) (layers : List Overlay) (default : α) : α :=
  (layers.findSome? pick).getD default

/-- A setting that each overlay replaces or leaves as it is comes from the highest overlay that
specifies it. -/
theorem foldr_under {α : Type} (setting : Settings → α) {pick : Overlay → Option α}
    (h : ∀ s o, setting (s.under o) = (pick o).getD (setting s)) (layers : List Overlay)
    (s : Settings) :
    setting (layers.foldr (fun o s => s.under o) s) = resolve pick layers (setting s) := by
  induction layers with
  | nil => rfl
  | cons o layers ih =>
    rw [List.foldr_cons, h, ih, resolve, resolve, List.findSome?_cons]
    cases pick o <;> rfl

/-- The layer of the settings file at a path: none when there is no path or no file at it. -/
inductive FileLayer (files : Files) : Option Text → Option Overlay → Prop
  | nowhere : FileLayer files none none
  | absent {path : Text} (hFile : files path = none) : FileLayer files (some path) none
  | present {path : Text} {o : Overlay} (content : Text) (hFile : files path = some (.file content))
      (hForm : Overlay.ofText? content = some o) : FileLayer files (some path) (some o)

theorem foldlM_addFile {files : Files} {path : Option Text} {layer : Option Overlay}
    (h : FileLayer files path layer) (host : Host) (s : Settings) :
    path.toList.foldlM (addFile host files) s =
      .ok (layer.toList.foldr (fun o s => s.under o) s) := by
  cases h with
  | nowhere => rfl
  | @absent path hFile =>
    have hOverlay : fileOverlay host files path = .ok none := by simp only [fileOverlay, hFile]
    show (addFile host files s path >>= pure) = _
    rw [addFile, hOverlay]
    rfl
  | @present path o content hFile hForm =>
    have hOverlay : fileOverlay host files path = .ok (some o) := by
      simp only [fileOverlay, hFile, hForm]
    show (addFile host files s path >>= pure) = _
    rw [addFile, hOverlay]
    rfl

section

variable {host : Host} {files : Files} {env : Environment} {home dir : Option Text}
  {fromUser fromDir : Option Overlay} {fromEnv : Overlay}

/-- The layers of the files lie over the defaults in their order. -/
theorem foldlM_sources (hUser : FileLayer files (env.settingsFile? home) fromUser)
    (hDir : FileLayer files (dir.map localFile) fromDir) (host : Host) :
    (sources env home dir).foldlM (addFile host files) standard =
      .ok ((fromDir.toList ++ fromUser.toList).foldr (fun o s => s.under o) standard) := by
  rw [sources, List.foldlM_append, foldlM_addFile hUser, List.foldr_append]
  exact foldlM_addFile hDir host _

theorem load_eq_foldr
    (hUser : FileLayer files (env.settingsFile? (env.home? host.recordedHome)) fromUser)
    (hDir : FileLayer files (dir.map localFile) fromDir) (hEnv : env.overlay = .ok fromEnv) :
    let s := (fromEnv :: (fromDir.toList ++ fromUser.toList)).foldr (fun o s => s.under o) standard
    load files env dir host =
      .ok { s with inputPath := env.expand (env.home? host.recordedHome) s.inputPath } := by
  have hAdd (s : Settings) : addEnvironment env s = .ok (s.under fromEnv) := by
    rw [addEnvironment, hEnv]
    rfl
  intro s
  dsimp only [load]
  rw [foldlM_sources hUser hDir host]
  show (addEnvironment env _ >>= _) = _
  rw [hAdd]
  rfl

/-- Files that are absent or well-formed and an environment that can be read have settings: each
one is specified by the highest layer that says something about it, and the input path is what the
specified path expands to. -/
theorem load_eq_ok
    (hUser : FileLayer files (env.settingsFile? (env.home? host.recordedHome)) fromUser)
    (hDir : FileLayer files (dir.map localFile) fromDir) (hKnown : env.OnlyKnown)
    (hGives : env.Gives fromEnv) :
    let layers := fromEnv :: (fromDir.toList ++ fromUser.toList)
    ∃ path,
      env.IsExpansion (env.home? host.recordedHome)
        (resolve Overlay.inputPath layers standard.inputPath) path ∧
      load files env dir host = .ok {
        inputPath := path
        minWords := resolve Overlay.minWords layers standard.minWords
        orderSymbol := resolve Overlay.orderSymbol layers standard.orderSymbol
        vowels := resolve Overlay.vowels layers standard.vowels
        preprocess := resolve Overlay.preprocess layers standard.preprocess
        delimiter := resolve Overlay.delimiter layers standard.delimiter } := by
  intro layers
  refine ⟨_, env.isExpansion_expand _ _, ?_⟩
  rw [load_eq_foldr hUser hDir (Environment.overlay_eq_ok hKnown hGives)]
  have hPath := foldr_under inputPath (fun _ _ => rfl) layers standard
  have hWords := foldr_under minWords (fun _ _ => rfl) layers standard
  have hSymbol := foldr_under orderSymbol (fun _ _ => rfl) layers standard
  have hVowels := foldr_under vowels (fun _ _ => rfl) layers standard
  have hPreprocess := foldr_under preprocess (fun _ _ => rfl) layers standard
  have hDelimiter := foldr_under delimiter (fun _ _ => rfl) layers standard
  rw [hPath, hWords, hSymbol, hVowels, hPreprocess, hDelimiter]

end

/-- Two files and a variable: the count comes from the environment over both files, the truth value
from the file of the directory over that of the user, and the vowels and the path from the file of
the user, which is found in the recorded home. -/
theorem load_over_two_files :
    let userFile :=
      ("input_path = \"~/$DIR/in.txt\"\nmin_words = 1\nvowels = \"ae\"\n" ++
        "[preprocess]\nenabled = true\n").toList
    let dirFile := "min_words = 2\n[preprocess]\nenabled = false\n".toList
    let files : Files := fun path =>
      if path = "/home/.config/textree/textree.toml".toList then some (.file userFile)
      else if path = "texts/.textree.toml".toList then some (.file dirFile)
      else none
    let env : Environment :=
      [("DIR".toList, "texts".toList), ("TEXTREE_MIN_WORDS".toList, "+4".toList)]
    let host : Host := { Host.builtin with recordedHome := some "/home".toList }
    load files env (some "texts".toList) host = .ok {
      inputPath := "/home/texts/in.txt".toList
      minWords := 4
      orderSymbol := 'a'
      vowels := "ae".toList
      preprocess := false
      delimiter := Parse.defaultDelimiter } := by
  intro userFile dirFile files env host
  have hUser : FileLayer files (env.settingsFile? (env.home? host.recordedHome))
      (some ⟨some "~/$DIR/in.txt".toList, some 1, none, some "ae".toList, some true, none⟩) :=
    .present userFile (by decide +kernel) (by decide +kernel)
  have hDir : FileLayer files ((some "texts".toList).map localFile)
      (some ⟨none, some 2, none, none, some false, none⟩) :=
    .present dirFile (by decide +kernel) (by decide +kernel)
  have hKnown : env.OnlyKnown := by
    refine List.forall_mem_cons.2 ⟨fun h => ?_, List.forall_mem_cons.2 ⟨fun _ => ?_, by simp⟩⟩
    · exact absurd h (by decide)
    · exact ⟨.minWords, rfl⟩
  have hCount : env.lookup Environment.Variable.minWords.name = some "+4".toList := by
    decide +kernel
  have hSymbol : env.lookup Environment.Variable.orderSymbol.name = none := by decide +kernel
  have hPreprocess : env.lookup Environment.Variable.preprocess.name = none := by decide +kernel
  have hGives : env.Gives ⟨none, some 4, none, none, none, none⟩ :=
    { inputPath := by decide +kernel
      minWords := hCount ▸ .some ⟨['4'], .inr rfl, by simp, List.all_eq_true.1 rfl, rfl, by decide⟩
      orderSymbol := hSymbol ▸ .none
      vowels := by decide +kernel
      preprocess := hPreprocess ▸ .none
      delimiter := by decide +kernel }
  obtain ⟨path, hPath, hLoad⟩ := load_eq_ok hUser hDir hKnown hGives
  have hExpand : "/home/texts/in.txt".toList = path := by
    rw [← Environment.expand_eq_iff.2 hPath]
    decide +kernel
  rw [hExpand]
  refine hLoad.trans ?_
  rfl

end Prose.Settings
