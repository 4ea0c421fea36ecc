import MessageGateway.Settings

/-!
# What is loaded from an environment

Any environment can be loaded (`Settings.isLoaded_load`). The mode of the tags and the size of
chain labels are what their variables stand for, and the default where these are not set, empty or
stand for nothing; in the last case alone there is a warning, the one about the mode first. The
level of the log is any text in capital letters.

## Main definitions

* `MessageGateway.Settings.unusableMode?`, `MessageGateway.Settings.unusableSize?`.
* `MessageGateway.Settings.IsLoaded`.

## Main results

* `MessageGateway.Settings.isLoaded_load`.
-/

namespace MessageGateway

namespace TagMode

theorem named?_eq_some_anchor_iff {name : String} : named? name = some .anchor ↔ name = "anchor" := by
  unfold named?
  split
  · rename_i hstatic
    simp [hstatic]
  · split <;> simp [*]

theorem named?_eq_none_iff {name : String} :
    named? name = none ↔ name ≠ "static" ∧ name ≠ "anchor" := by
  unfold named?
  split
  · simp [*]
  · split <;> simp [*]

end TagMode

namespace Settings

/-- The text of a mode that is set, not empty, and the name of none. -/
def unusableMode? (env : Environment) : Option String :=
  (env.get? "GATEWAY_DISCRIMINATOR_MODE").filter fun text =>
    LetterCase.lower text ≠ "static" ∧ LetterCase.lower text ≠ "anchor"

/-- The text of a size that is set, not empty, and no integer. -/
def unusableSize? (env : Environment) : Option String :=
  (env.get? "GATEWAY_CHAIN_ID_WIDTH").filter fun text => Integer.parse? text = none

/-- The warning about a mode. -/
def modeWarning (text : String) : LogEntry :=
  ⟨.warning, "[CONFIG] Unknown GATEWAY_DISCRIMINATOR_MODE=" ++ Quoted.text (LetterCase.lower text) ++
    ", using 'static'"⟩

/-- The warning about a size. -/
def sizeWarning (text : String) : LogEntry :=
  ⟨.warning, "[CONFIG] Invalid GATEWAY_CHAIN_ID_WIDTH=" ++ Quoted.text text ++ ", using 32"⟩

/-- What an environment is loaded as. -/
structure IsLoaded (env : Environment) (x : Logged Settings) : Prop where
  /-- The mode is the one of two that is named, in letters of any case, and else the fixed one. -/
  tagMode : x.value.tagMode = .anchor ↔
    ∃ text, env.get? "GATEWAY_DISCRIMINATOR_MODE" = some text ∧ LetterCase.lower text = "anchor"
  /-- The size is the integer that is set. -/
  chainLabelSize : x.value.chainLabelSize =
    ((env.get? "GATEWAY_CHAIN_ID_WIDTH").bind Integer.parse?).getD 32
  /-- The level is the text that is set in capital letters. -/
  logLevel : x.value.logLevel =
    ((env.get? "GATEWAY_LOG_LEVEL").map LetterCase.upper).getD "WARNING"
  /-- There is one warning about each of the two that cannot be used, and no other entry. -/
  log : x.log = ((unusableMode? env).map modeWarning).toList ++
    ((unusableSize? env).map sizeWarning).toList

variable (env : Environment)

theorem tagMode_loadTagMode : (loadTagMode env).value = .anchor ↔
    ∃ text, env.get? "GATEWAY_DISCRIMINATOR_MODE" = some text ∧
      LetterCase.lower text = "anchor" := by
  unfold loadTagMode
  cases env.get? "GATEWAY_DISCRIMINATOR_MODE" with
  | none => simp [Logged.silent, default]
  | some text =>
    simp only [Option.some.injEq, exists_eq_left', ← TagMode.named?_eq_some_anchor_iff]
    cases TagMode.named? (LetterCase.lower text) <;> simp [Logged.silent, default]

theorem log_loadTagMode :
    (loadTagMode env).log = ((unusableMode? env).map modeWarning).toList := by
  unfold loadTagMode unusableMode?
  cases env.get? "GATEWAY_DISCRIMINATOR_MODE" with
  | none => rfl
  | some text =>
    simp only [Option.filter_some, decide_eq_true_eq, ← TagMode.named?_eq_none_iff]
    cases TagMode.named? (LetterCase.lower text) with
    | none => rfl
    | some mode => rfl

theorem value_loadChainLabelSize : (loadChainLabelSize env).value =
    ((env.get? "GATEWAY_CHAIN_ID_WIDTH").bind Integer.parse?).getD 32 := by
  unfold loadChainLabelSize
  cases env.get? "GATEWAY_CHAIN_ID_WIDTH" with
  | none => rfl
  | some text =>
    simp only [Option.bind_some]
    cases Integer.parse? text <;> rfl

theorem log_loadChainLabelSize :
    (loadChainLabelSize env).log = ((unusableSize? env).map sizeWarning).toList := by
  unfold loadChainLabelSize unusableSize?
  cases env.get? "GATEWAY_CHAIN_ID_WIDTH" with
  | none => rfl
  | some text =>
    simp only [Option.filter_some]
    cases Integer.parse? text <;> rfl

theorem loadLogLevel_eq : loadLogLevel env =
    ((env.get? "GATEWAY_LOG_LEVEL").map LetterCase.upper).getD "WARNING" := by
  unfold loadLogLevel
  cases env.get? "GATEWAY_LOG_LEVEL" <;> rfl

/-- Every environment can be loaded. -/
theorem isLoaded_load : IsLoaded env (load env) where
  tagMode := tagMode_loadTagMode env
  chainLabelSize := value_loadChainLabelSize env
  logLevel := loadLogLevel_eq env
  log := by rw [← log_loadTagMode env, ← log_loadChainLabelSize env, load]

end Settings

end MessageGateway
