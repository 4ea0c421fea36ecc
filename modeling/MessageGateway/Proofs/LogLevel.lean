import MessageGateway.LogLevel
import MessageGateway.Proofs.Lookup
import MessageGateway.Proofs.Settings
import MessageGateway.Proofs.Text.LetterCase

/-!
# Levels that environments set

The name of a level comes from an environment in capital letters, and few names of the logging
facility are in capital letters: those of its levels, and two others (`LogLevel.unusable?`), of a
text and of a part. Every other name has no meaning and stands for the level of warnings. So the log
has the level that an environment names (`LogLevel.levelOf`), whatever was set before, unless the
environment names one of these two, which ends the setting of levels
(`LogLevel.configureAll_environments`).

## Main definitions

* `MessageGateway.LogLevel.IsCapital`.
* `MessageGateway.LogLevel.levelOf`, `MessageGateway.LogLevel.unusable?`.

## Main results

* `MessageGateway.LogLevel.ofName_of_isCapital`.
* `MessageGateway.LogLevel.configureAll_environments`.
* `MessageGateway.LogLevel.environments_set_levels`.
-/

namespace MessageGateway

namespace LogLevel

/-- There is no small letter from `a` to `z` in the name. -/
def IsCapital (name : String) : Prop :=
  name.toList.any Char.isLower = false

/-- The level with a name; a name of none stands for the level of warnings. -/
def levelOf (name : String) : LogLevel :=
  .number ((levels.lookup name).getD 30)

/-- Why a name in capital letters cannot be used: it is that of a text or of a part. -/
def unusable? (name : String) : Option UnusableLevel :=
  if name = "BASIC_FORMAT" then some .text
  else if name = "_STYLES" then some .part
  else none

/-! ### Names in capital letters -/

private theorem any_isLower_switches : ∀ name ∈ switches, name.toList.any Char.isLower = true := by
  decide +kernel

private theorem any_isLower_texts :
    ∀ name ∈ texts, name.toList.any Char.isLower = true ∨ name = "BASIC_FORMAT" := by
  decide +kernel

private theorem any_isLower_parts :
    ∀ name ∈ parts, name.toList.any Char.isLower = true ∨ name = "_STYLES" := by
  decide +kernel

/-- No level has one of the two names that cannot be used. -/
private theorem unusable?_levels : ∀ p ∈ levels, unusable? p.1 = none := by
  decide +kernel

namespace IsCapital

variable {name : String} (h : IsCapital name)
include h

theorem notMem_switches : name ∉ switches := fun hmem =>
  absurd (any_isLower_switches name hmem) (Bool.eq_false_iff.mp h)

theorem mem_texts_iff : name ∈ texts ↔ name = "BASIC_FORMAT" := by
  constructor
  · exact fun hmem => (any_isLower_texts name hmem).resolve_left (Bool.eq_false_iff.mp h)
  · rintro rfl
    decide

theorem mem_parts_iff : name ∈ parts ↔ name = "_STYLES" := by
  constructor
  · exact fun hmem => (any_isLower_parts name hmem).resolve_left (Bool.eq_false_iff.mp h)
  · rintro rfl
    decide +kernel

end IsCapital

/-- A name in capital letters is that of a level, or one of two that cannot be used, or has no
meaning. -/
theorem ofName_of_isCapital {name : String} (h : IsCapital name) :
    ofName name = match unusable? name with
      | some e => .error e
      | none => .ok (levelOf name) := by
  unfold ofName meaning? levelOf
  cases hlevel : levels.lookup name with
  | some n =>
    rw [unusable?_levels _ (mem_of_lookup hlevel)]
    rfl
  | none =>
    simp only [if_neg h.notMem_switches, h.mem_texts_iff, h.mem_parts_iff, unusable?]
    by_cases htext : name = "BASIC_FORMAT"
    · simp only [if_pos htext]
    · by_cases hpart : name = "_STYLES"
      · simp only [if_neg htext, if_pos hpart]
      · simp only [if_neg htext, if_neg hpart]
        rfl

/-- The name of a level that an environment gives is in capital letters. -/
theorem isCapital_logLevel (env : Environment) : IsCapital (Settings.load env).value.logLevel := by
  rw [(Settings.isLoaded_load env).logLevel]
  cases env.get? "GATEWAY_LOG_LEVEL" with
  | none => rfl
  | some text =>
    refine List.any_eq_false.mpr fun c hc => ?_
    rw [LetterCase.isLower_of_mem_upper hc]
    decide

/-! ### Setting levels one after another -/

/-- The levels that environments set one after another, from whatever levels: each sets the one
that it names, unless one names what cannot be used, and the first such ends it. -/
theorem configureAll_environments (before : LogLevels) (envs : List Environment) :
    (configureAll before (envs.map .environment)).value =
      match envs.findSome? fun env => unusable? (Settings.load env).value.logLevel with
      | some e => .error e
      | none => .ok (envs.map fun env => levelOf (Settings.load env).value.logLevel) := by
  induction envs generalizing before with
  | nil => rfl
  | cons env envs ih =>
    have hname := ofName_of_isCapital (isCapital_logLevel env)
    rw [List.map_cons, List.findSome?_cons, configureAll]
    simp only [Source.load, Logged.map, hname]
    cases unusable? (Settings.load env).value.logLevel with
    | some e => rfl
    | none =>
      simp only [ih]
      cases envs.findSome? fun env => unusable? (Settings.load env).value.logLevel with
      | some e => rfl
      | none => rfl

/-- **What environments set.** Every environment can be loaded, with one warning about a mode and
one about a size that are set and cannot be used. Environments one after another give the log the
levels that they name, and the level of warnings where they name none, whatever was set before. This
holds exactly if none names a text or a part of the logging facility, which cannot be used: the
first environment with one of these names ends it. -/
theorem environments_set_levels (before : LogLevels) (envs : List Environment) :
    (∀ env ∈ envs, Settings.IsLoaded env (Settings.load env)) ∧
      (configureAll before (envs.map .environment)).value =
        (match envs.findSome? fun env => unusable? (Settings.load env).value.logLevel with
        | some e => .error e
        | none => .ok (envs.map fun env => levelOf (Settings.load env).value.logLevel)) ∧
      ((configureAll before (envs.map .environment)).value =
          .ok (envs.map fun env => levelOf (Settings.load env).value.logLevel) ↔
        ∀ env ∈ envs, unusable? (Settings.load env).value.logLevel = none) := by
  refine ⟨fun env _ => Settings.isLoaded_load env, configureAll_environments before envs, ?_⟩
  rw [configureAll_environments, ← List.findSome?_eq_none_iff]
  cases envs.findSome? fun env => unusable? (Settings.load env).value.logLevel with
  | some e => simp
  | none => simp

/-- An environment that names a text of the logging facility gives no level. -/
theorem text_of_facility_gives_no_level :
    ¬ ∀ (before : LogLevels) (envs : List Environment),
      ∃ set, (configureAll before (envs.map .environment)).value = .ok set := by
  intro hall
  obtain ⟨set, hset⟩ := hall ⟨.number 0, none⟩ [[("GATEWAY_LOG_LEVEL", "basic_format")]]
  have herror : (configureAll ⟨.number 0, none⟩
      [.environment [("GATEWAY_LOG_LEVEL", "basic_format")]]).value = .error .text := by
    decide +kernel
  cases hset.symm.trans herror

end LogLevel

end MessageGateway
