import MessageGateway.Log
import MessageGateway.Message.Tag
import MessageGateway.Text.Integer
import MessageGateway.Text.LetterCase
import MessageGateway.Text.Quoted

/-!
# Settings

The settings are read from environment variables: the mode of the tags, the size of chain labels
and the level of the log. A variable that is not set or empty leaves its setting at the default. A
mode or size that cannot be used does so too, and a warning shows it; a level is any text, put into
capital letters, and is not looked at before the log is set up.

## Main definitions

* `MessageGateway.Environment`, `MessageGateway.Settings`, `MessageGateway.Settings.load`.
-/

namespace MessageGateway

/-- Environment variables with their values. -/
abbrev Environment := List (String × String)

/-- The value of a variable that is set and not empty. -/
def Environment.get? (env : Environment) (name : String) : Option String :=
  (env.lookup name).filter (· != "")

/-- The settings. -/
structure Settings where
  tagMode : TagMode
  chainLabelSize : Int
  logLevel : String
  deriving DecidableEq

namespace Settings

/-- The settings without any environment variable. -/
def default : Settings :=
  ⟨.static, 32, "WARNING"⟩

/-- The mode of the tags. -/
def loadTagMode (env : Environment) : Logged TagMode :=
  match env.get? "GATEWAY_DISCRIMINATOR_MODE" with
  | none => .silent default.tagMode
  | some text =>
    let name := LetterCase.lower text
    match TagMode.named? name with
    | some mode => .silent mode
    | none =>
      let shown := Quoted.text name
      ⟨default.tagMode,
        [⟨.warning, s!"[CONFIG] Unknown GATEWAY_DISCRIMINATOR_MODE={shown}, using 'static'"⟩]⟩

/-- The size of chain labels. -/
def loadChainLabelSize (env : Environment) : Logged Int :=
  match env.get? "GATEWAY_CHAIN_ID_WIDTH" with
  | none => .silent default.chainLabelSize
  | some text =>
    match Integer.parse? text with
    | some size => .silent size
    | none =>
      let shown := Quoted.text text
      ⟨default.chainLabelSize,
        [⟨.warning, s!"[CONFIG] Invalid GATEWAY_CHAIN_ID_WIDTH={shown}, using 32"⟩]⟩

/-- The level of the log. -/
def loadLogLevel (env : Environment) : String :=
  match env.get? "GATEWAY_LOG_LEVEL" with
  | none => default.logLevel
  | some text => LetterCase.upper text

/-- The settings by the environment, and the warnings about it. -/
def load (env : Environment) : Logged Settings :=
  let mode := loadTagMode env
  let size := loadChainLabelSize env
  ⟨⟨mode.value, size.value, loadLogLevel env⟩, mode.log ++ size.log⟩

end Settings

end MessageGateway
