import Prose.Proofs.Command.Failure
import Prose.Proofs.Result
import Prose.Proofs.Settings.Environment

/-!
# Variables that override settings

A variable overrides its setting when its value spells one, and a setting without its variable stays
as it is (`Overrides`). Putting the environment over the settings has three outcomes
(`addEnvironment_outcome`): a count or a symbol that cannot be read is refused, a truth value that
cannot be read leaves its setting as it is, and otherwise every variable overrides. The second
outcome is the only one in which a variable has no effect.
-/

namespace Prose.Environment

/-! ### What the readers accept -/

theorem count_eq_ok_iff {t : Text} {n : Nat} : count t = .ok n ↔ IsCount t n := by
  refine ⟨fun h => ?_, count_eq_ok⟩
  unfold count at h
  split at h
  next m hRead =>
    obtain rfl : m = n := Except.ok.inj h
    obtain ⟨digits, hSign, hNe, hDigits, hValue, hRange⟩ :=
      Decimal.exists_digits_of_nat?_eq_ok hRead
    exact ⟨digits, hSign, hNe, hDigits, hValue, Nat.lt_of_le_sub_one (by decide) hRange⟩
  next => cases h

theorem symbol_eq_ok_iff {t : Text} {c : Char} : symbol t = .ok c ↔ IsSymbol t c := by
  refine ⟨fun h => ?_, symbol_eq_ok⟩
  unfold symbol at h
  split at h
  next d =>
    obtain rfl : d = c := Except.ok.inj h
    rfl
  next => cases h

theorem boolean?_eq_some_iff {t : Text} {b : Bool} : boolean? t = some b ↔ IsTruth t b := by
  refine ⟨fun h => ?_, boolean?_eq_some⟩
  unfold boolean? at h
  dsimp only at h
  split_ifs at h with hYes hNo
  · obtain rfl : true = b := Option.some.inj h
    exact hYes
  · obtain rfl : false = b := Option.some.inj h
    exact hNo

section

variable {α : Type} {IsRead : Text → α → Prop} {t : Option Text} {a : Option α}

theorem rel_of_readIfGiven_eq_ok {read : Text → Except Failure α}
    (hRead : ∀ {u b}, read u = .ok b → IsRead u b) (h : readIfGiven read t = .ok a) :
    Option.Rel IsRead t a := by
  cases t with
  | none =>
    obtain rfl : none = a := Except.ok.inj h
    exact .none
  | some u =>
    obtain ⟨b, hb, rfl⟩ := map_eq_ok_iff.1 h
    exact .some (hRead hb)

/-- There is a value, and it spells nothing. -/
def Unreadable (IsRead : Text → α → Prop) (t : Option Text) : Prop :=
  ∃ u ∈ t, ∀ a, ¬ IsRead u a

theorem not_unreadable_iff : ¬ Unreadable IsRead t ↔ ∃ a, Option.Rel IsRead t a := by
  cases t with
  | none =>
    have hNot : ¬ Unreadable IsRead none := fun ⟨_, hu, _⟩ => nomatch hu
    exact iff_of_true hNot ⟨none, .none⟩
  | some u =>
    constructor
    · intro h
      obtain ⟨a, ha⟩ : ∃ a, IsRead u a := by
        by_contra hNone
        exact h ⟨u, rfl, not_exists.1 hNone⟩
      exact ⟨some a, .some ha⟩
    · rintro ⟨_, hRel⟩ ⟨v, hv, hNone⟩
      cases hRel with
      | some ha =>
        obtain rfl : u = v := Option.some.inj hv
        exact hNone _ ha

end

/-! ### Environments that are refused -/

/-- The count or the symbol cannot be read. -/
def Refuses (env : Environment) : Prop :=
  Unreadable IsCount (env.lookup Variable.minWords.name) ∨
    Unreadable IsSymbol (env.lookup Variable.orderSymbol.name)

theorem not_refuses_of_overlay_eq_ok {env : Environment} {o : Overlay} (hKnown : env.OnlyKnown)
    (h : env.overlay = .ok o) : ¬ env.Refuses := by
  obtain ⟨words, hWords, h⟩ := bind_eq_ok_iff.1 h
  obtain ⟨symbol, hSymbol, -⟩ := bind_eq_ok_iff.1 h
  have hWords := rel_of_readIfGiven_eq_ok count_eq_ok_iff.1 hWords
  have hSymbol := rel_of_readIfGiven_eq_ok symbol_eq_ok_iff.1 hSymbol
  rw [show "min_words" = Variable.minWords.key from rfl, setting?_eq_lookup hKnown] at hWords
  rw [show "order_symbol" = Variable.orderSymbol.key from rfl, setting?_eq_lookup hKnown] at hSymbol
  exact not_or.2 ⟨not_unreadable_iff.2 ⟨words, hWords⟩, not_unreadable_iff.2 ⟨symbol, hSymbol⟩⟩

/-! ### Overridden settings -/

/-- The new value of a setting is what its variable spells, or the old one without a variable. -/
inductive Overridden {α : Type} (IsRead : Text → α → Prop) : Option Text → α → α → Prop
  | absent {a : α} : Overridden IsRead none a a
  | given {t : Text} {a b : α} (h : IsRead t b) : Overridden IsRead (some t) a b

theorem overridden_getD {α : Type} {IsRead : Text → α → Prop} {t : Option Text} {o : Option α}
    (h : Option.Rel IsRead t o) (a : α) : Overridden IsRead t a (o.getD a) := by
  cases h with
  | none => exact .absent
  | some h => exact .given h

theorem overridden_text (t : Option Text) (a : Text) : Overridden Eq t a (t.getD a) := by
  cases t with
  | none => exact .absent
  | some u => exact .given rfl

theorem Overridden.not_unreadable {α : Type} {IsRead : Text → α → Prop} {t : Option Text}
    {a b : α} (h : Overridden IsRead t a b) : ¬ Unreadable IsRead t := by
  rw [not_unreadable_iff]
  cases h with
  | absent => exact ⟨none, .none⟩
  | given h => exact ⟨some b, .some h⟩

/-- In `s'` the variables override the settings of `s`, the truth value apart. -/
structure OverridesOthers (env : Environment) (s s' : Settings) : Prop where
  inputPath : Overridden Eq (env.lookup Variable.inputPath.name) s.inputPath s'.inputPath
  minWords : Overridden IsCount (env.lookup Variable.minWords.name) s.minWords s'.minWords
  orderSymbol :
    Overridden IsSymbol (env.lookup Variable.orderSymbol.name) s.orderSymbol s'.orderSymbol
  vowels : Overridden Eq (env.lookup Variable.vowels.name) s.vowels s'.vowels
  delimiter : Overridden Eq (env.lookup Variable.delimiter.name) s.delimiter s'.delimiter

/-- In `s'` the variables override the settings of `s`. -/
structure Overrides (env : Environment) (s s' : Settings) : Prop extends
    OverridesOthers env s s' where
  preprocess : Overridden IsTruth (env.lookup Variable.preprocess.name) s.preprocess s'.preprocess

/-- A value that is none of the words is as good as absent. -/
theorem bind_boolean?_of_unreadable {t : Option Text} (h : Unreadable IsTruth t) :
    t.bind boolean? = none := by
  obtain ⟨u, hu, hNone⟩ := h
  rw [Option.mem_def.1 hu, Option.bind_some, Option.eq_none_iff_forall_ne_some]
  exact fun b hb => hNone b (boolean?_eq_some_iff.1 hb)

end Prose.Environment

namespace Prose.Settings

open Environment

variable {env : Environment}

/-- Nothing but a refusal stands in the way of the environment. The truth value is read or left as
it is. -/
theorem exists_addEnvironment_eq_ok (hKnown : env.OnlyKnown) (h : ¬ env.Refuses) (s : Settings) :
    ∃ s', addEnvironment env s = .ok s' ∧ env.OverridesOthers s s' ∧
      s'.preprocess =
        ((env.lookup Variable.preprocess.name).bind boolean?).getD s.preprocess := by
  obtain ⟨hCount, hSymbol⟩ := not_or.1 h
  obtain ⟨words, hWords⟩ := not_unreadable_iff.1 hCount
  obtain ⟨symbol, hSymbol⟩ := not_unreadable_iff.1 hSymbol
  have hOverlay := overlay_eq_ok_of_rel hKnown hWords hSymbol
  refine ⟨s.under _, by rw [addEnvironment, hOverlay]; rfl, ?_, rfl⟩
  exact {
    inputPath := overridden_text _ _
    minWords := overridden_getD hWords _
    orderSymbol := overridden_getD hSymbol _
    vowels := overridden_text _ _
    delimiter := overridden_text _ _ }

theorem addEnvironment_eq_error_iff (hKnown : env.OnlyKnown) (s : Settings) :
    (∃ detail, addEnvironment env s = .error (.config detail)) ↔ env.Refuses := by
  constructor
  · rintro ⟨detail, hError⟩
    by_contra hNot
    obtain ⟨s', hOk, -⟩ := exists_addEnvironment_eq_ok hKnown hNot s
    cases hOk.symm.trans hError
  · intro hRefuses
    cases hAdd : addEnvironment env s with
    | ok s' =>
      obtain ⟨o, hOverlay, -⟩ := map_eq_ok_iff.1 hAdd
      exact absurd hRefuses (not_refuses_of_overlay_eq_ok hKnown hOverlay)
    | error f =>
      -- only failures of the configuration have this exit code
      have hCode : f.exitCode ∈ [78] := failsWith_map _ env.failsWith_overlay f hAdd
      cases f with
      | config detail => exact ⟨detail, rfl⟩
      | _ => simp [Failure.exitCode] at hCode

/-- An environment is refused exactly when its count or its symbol cannot be read. Otherwise every
variable overrides its setting, unless the truth value cannot be read: then the other variables
do, and the truth value stays as it is. -/
theorem addEnvironment_outcome (hKnown : env.OnlyKnown) (s : Settings) :
    ((∃ detail, addEnvironment env s = .error (.config detail)) ↔ env.Refuses) ∧
      (¬ env.Refuses → ∃ s', addEnvironment env s = .ok s' ∧ env.OverridesOthers s s' ∧
        (env.Overrides s s' ↔ ¬ Unreadable IsTruth (env.lookup Variable.preprocess.name)) ∧
        (Unreadable IsTruth (env.lookup Variable.preprocess.name) →
          s'.preprocess = s.preprocess)) := by
  refine ⟨addEnvironment_eq_error_iff hKnown s, fun h => ?_⟩
  obtain ⟨s', hOk, hOthers, hTruth⟩ := exists_addEnvironment_eq_ok hKnown h s
  refine ⟨s', hOk, hOthers, ⟨fun hAll => hAll.preprocess.not_unreadable, fun hReadable => ?_⟩,
    fun hUnreadable => ?_⟩
  · obtain ⟨b, hb⟩ := not_unreadable_iff.1 hReadable
    refine ⟨hOthers, ?_⟩
    rw [hTruth, bind_boolean? hb]
    exact overridden_getD hb _
  · rw [hTruth, bind_boolean?_of_unreadable hUnreadable]
    rfl

/-- A count with a plus sign and a truth value in capitals. -/
theorem addEnvironment_outcome_of_words :
    let env : Environment := [("TEXTREE_MIN_WORDS".toList, "+07".toList),
      ("TEXTREE_PREPROCESS__ENABLED".toList, "OFF".toList)]
    env.OnlyKnown ∧ ¬ env.Refuses ∧
      addEnvironment env standard = .ok { standard with minWords := 7, preprocess := false } ∧
      env.Overrides standard { standard with minWords := 7, preprocess := false } := by
  intro env
  have hKnown : env.OnlyKnown :=
    List.forall_mem_cons.2 ⟨fun _ => ⟨.minWords, rfl⟩,
      List.forall_mem_cons.2 ⟨fun _ => ⟨.preprocess, rfl⟩, List.forall_mem_nil _⟩⟩
  have hAdd : addEnvironment env standard =
      .ok { standard with minWords := 7, preprocess := false } := by decide +kernel
  have hTruth : env.lookup Variable.preprocess.name = some "OFF".toList := by decide +kernel
  have hOff : IsTruth "OFF".toList false := boolean?_eq_some_iff.1 (by decide +kernel)
  obtain ⟨hRefuses, hOutcome⟩ := addEnvironment_outcome hKnown standard
  have hNot : ¬ env.Refuses := by
    rw [← hRefuses]
    rintro ⟨detail, hError⟩
    cases hAdd.symm.trans hError
  obtain ⟨s', hOk, -, hOverrides, -⟩ := hOutcome hNot
  obtain rfl := Except.ok.inj (hAdd.symm.trans hOk)
  refine ⟨hKnown, hNot, hAdd, hOverrides.2 (not_unreadable_iff.2 ⟨some false, ?_⟩)⟩
  rw [hTruth]
  exact .some hOff

/-- A variable that spells no truth value has no effect, and nothing is reported. -/
theorem addEnvironment_of_maybe :
    let env : Environment := [("TEXTREE_PREPROCESS__ENABLED".toList, "maybe".toList)]
    env.OnlyKnown ∧ addEnvironment env standard = .ok standard ∧
      ¬ ((∃ detail, addEnvironment env standard = .error (.config detail)) ∨
        ∃ s', addEnvironment env standard = .ok s' ∧ env.Overrides standard s') := by
  intro env
  have hKnown : env.OnlyKnown :=
    List.forall_mem_cons.2 ⟨fun _ => ⟨.preprocess, rfl⟩, List.forall_mem_nil _⟩
  have hAdd : addEnvironment env standard = .ok standard := by decide +kernel
  have hTruth : env.lookup Variable.preprocess.name = some "maybe".toList := by decide +kernel
  refine ⟨hKnown, hAdd, ?_⟩
  rintro (⟨detail, hError⟩ | ⟨s', -, hOverrides⟩)
  · cases hAdd.symm.trans hError
  · have hGiven := hOverrides.preprocess
    rw [hTruth] at hGiven
    cases hGiven with
    | given hSpells =>
      have hNone : boolean? "maybe".toList = none := by decide +kernel
      rw [boolean?_eq_some_iff.2 hSpells] at hNone
      cases hNone

end Prose.Settings
