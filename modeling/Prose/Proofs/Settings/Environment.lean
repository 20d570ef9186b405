import Prose.Proofs.Text.Decimal
import Prose.Proofs.Text.Lowercase
import Prose.Settings.Environment

/-!
# Settings that the environment gives

Six variables name the six settings. In an environment whose variables with the prefix are among
them, a setting is the value of its variable (`setting?_eq_lookup`), and when these values can be
read the environment has exactly the overlay that they spell (`overlay_eq_ok`).
-/

namespace Prose.Environment

/-- The variables of the six settings. -/
inductive Variable
  | inputPath
  | minWords
  | orderSymbol
  | vowels
  | preprocess
  | delimiter
  deriving DecidableEq

namespace Variable

def name : Variable → Text
  | inputPath => "TEXTREE_INPUT_PATH".toList
  | minWords => "TEXTREE_MIN_WORDS".toList
  | orderSymbol => "TEXTREE_ORDER_SYMBOL".toList
  | vowels => "TEXTREE_VOWELS".toList
  | preprocess => "TEXTREE_PREPROCESS__ENABLED".toList
  | delimiter => "TEXTREE_PARSER__PARAGRAPH_DELIMITER".toList

/-- The key under which the setting is looked up. -/
def key : Variable → String
  | inputPath => "input_path"
  | minWords => "min_words"
  | orderSymbol => "order_symbol"
  | vowels => "vowels"
  | preprocess => "preprocess.enabled"
  | delimiter => "parser.paragraph_delimiter"

theorem key?_name (v : Variable) : key? v.name = some v.key.toList := by
  cases v <;> decide +kernel

theorem key_injective {v w : Variable} (h : v.key.toList = w.key.toList) : v = w := by
  revert h
  cases v <;> cases w <;> decide

end Variable

/-- Every variable whose name starts with the prefix in some letter case is one of the six. -/
def OnlyKnown (env : Environment) : Prop :=
  ∀ p ∈ env, (p.1.take 8).map Char.toLower = "textree_".toList → ∃ v : Variable, p.1 = v.name

theorem startsWithPrefix_of_key? {name key : Text} (h : key? name = some key) :
    (name.take 8).map Char.toLower = "textree_".toList := by
  have hCase : ∀ d ∈ "textree_".toList, Text.hasOwnCase d := List.all_eq_true.1 rfl
  simp only [key?, Option.ite_none_right_eq_some] at h
  exact Text.map_toLower_take_of_prefix hCase (List.isPrefixOf_iff_prefix.1 h.1)

section

variable {env : Environment}

theorem key?_eq_iff (h : env.OnlyKnown) {p : Text × Text} (hp : p ∈ env) (v : Variable) :
    key? p.1 = some v.key.toList ↔ p.1 = v.name := by
  constructor
  · intro hKey
    obtain ⟨w, hw⟩ := h p hp (startsWithPrefix_of_key? hKey)
    rw [hw, w.key?_name, Option.some.injEq] at hKey
    rw [hw, Variable.key_injective hKey]
  · intro hName
    rw [hName, v.key?_name]

/-- The setting is the value of its variable. -/
theorem setting?_eq_lookup (h : env.OnlyKnown) (v : Variable) :
    env.setting? v.key = env.lookup v.name := by
  induction env with
  | nil => rfl
  | cons p env ih =>
    have hTail := ih fun q hq => h q (List.mem_cons_of_mem p hq)
    have hHead := key?_eq_iff h List.mem_cons_self v
    by_cases hName : p.1 = v.name
    · rw [setting?, List.find?_cons_of_pos (by simpa using hHead.2 hName), ← hName]
      exact List.lookup_cons_self.symm
    · rw [setting?, List.find?_cons_of_neg (by simpa using mt hHead.1 hName)]
      refine hTail.trans ?_
      rw [List.lookup_cons, beq_eq_false_iff_ne.2 (Ne.symm hName)]

end

/-! ### Values -/

/-- The text is a numeral of `n`, perhaps behind a plus sign, and `n` is a 64-bit number. -/
def IsCount (t : Text) (n : Nat) : Prop :=
  ∃ digits : Text, (t = digits ∨ t = '+' :: digits) ∧ digits ≠ [] ∧ (∀ d ∈ digits, d.isDigit) ∧
    Decimal.value digits = n ∧ n < 2 ^ 64

def IsSymbol (t : Text) (c : Char) : Prop :=
  t = [c]

/-- The text is one of the words for `b` in some letter case. -/
def IsTruth (t : Text) (b : Bool) : Prop :=
  String.ofList t.lower ∈ if b then ["1", "true", "on", "yes"] else ["0", "false", "off", "no"]

theorem count_eq_ok {t : Text} {n : Nat} (h : IsCount t n) : count t = .ok n := by
  obtain ⟨digits, hSign, hNe, hDigits, rfl, hRange⟩ := h
  have hRead : Decimal.nat? maxCount t = .ok (Decimal.value digits) :=
    Decimal.nat?_eq_ok hSign hNe hDigits (Nat.le_sub_one_of_lt hRange)
  rw [count, hRead]

theorem symbol_eq_ok {t : Text} {c : Char} (h : IsSymbol t c) : symbol t = .ok c := by
  rw [IsSymbol] at h
  rw [h, symbol]

theorem boolean?_eq_some {t : Text} {b : Bool} (h : IsTruth t b) : boolean? t = some b := by
  cases b with
  | true => exact if_pos h
  | false =>
    -- no word stands for both
    have hDisjoint : ∀ w ∈ ["0", "false", "off", "no"], w ∉ ["1", "true", "on", "yes"] := by decide
    exact (if_neg (hDisjoint _ h)).trans (if_pos h)

theorem readIfGiven_eq_ok {α : Type} {read : Text → Except Failure α} {IsRead : Text → α → Prop}
    {t : Option Text} {a : Option α} (hRead : ∀ {t a}, IsRead t a → read t = .ok a)
    (h : Option.Rel IsRead t a) : readIfGiven read t = .ok a := by
  cases h with
  | none => rfl
  | some h => rw [readIfGiven, hRead h]; rfl

theorem bind_boolean? {t : Option Text} {b : Option Bool} (h : Option.Rel IsTruth t b) :
    t.bind boolean? = b := by
  cases h with
  | none => rfl
  | some h => exact boolean?_eq_some h

/-- The values of the variables spell the settings of the overlay; a setting whose variable is not
there is not specified. -/
structure Gives (env : Environment) (o : Overlay) : Prop where
  inputPath : env.lookup Variable.inputPath.name = o.inputPath
  minWords : Option.Rel IsCount (env.lookup Variable.minWords.name) o.minWords
  orderSymbol : Option.Rel IsSymbol (env.lookup Variable.orderSymbol.name) o.orderSymbol
  vowels : env.lookup Variable.vowels.name = o.vowels
  preprocess : Option.Rel IsTruth (env.lookup Variable.preprocess.name) o.preprocess
  delimiter : env.lookup Variable.delimiter.name = o.delimiter

/-- An environment whose count and symbol can be read has an overlay. -/
theorem overlay_eq_ok_of_rel {env : Environment} {words : Option Nat} {symbol : Option Char}
    (hKnown : env.OnlyKnown)
    (hWords : Option.Rel IsCount (env.lookup Variable.minWords.name) words)
    (hSymbol : Option.Rel IsSymbol (env.lookup Variable.orderSymbol.name) symbol) :
    env.overlay = .ok {
      inputPath := env.lookup Variable.inputPath.name
      minWords := words
      orderSymbol := symbol
      vowels := env.lookup Variable.vowels.name
      preprocess := (env.lookup Variable.preprocess.name).bind boolean?
      delimiter := env.lookup Variable.delimiter.name } := by
  have hSetting := setting?_eq_lookup hKnown
  have hReadWords : readIfGiven count (env.setting? "min_words") = .ok words :=
    readIfGiven_eq_ok count_eq_ok (hSetting .minWords ▸ hWords)
  have hReadSymbol : readIfGiven Environment.symbol (env.setting? "order_symbol") = .ok symbol :=
    readIfGiven_eq_ok symbol_eq_ok (hSetting .orderSymbol ▸ hSymbol)
  rw [overlay, hReadWords, hReadSymbol, ← hSetting .inputPath, ← hSetting .vowels,
    ← hSetting .preprocess, ← hSetting .delimiter]
  rfl

theorem overlay_eq_ok {env : Environment} {o : Overlay} (hKnown : env.OnlyKnown)
    (hGives : env.Gives o) : env.overlay = .ok o := by
  rw [overlay_eq_ok_of_rel hKnown hGives.minWords hGives.orderSymbol, hGives.inputPath,
    hGives.vowels, bind_boolean? hGives.preprocess, hGives.delimiter]

end Prose.Environment
