/-
  Server/Environment.lean --- what the server code reads from its surroundings.

  `hi_agent/config/posture.py`: the execution posture, resolved from
  `HI_AGENT_POSTURE` on every read.
-/
import HiAgent.Foundation.Text

namespace HiAgent.Server

open Foundation

inductive Posture where
  | dev
  | research
  | prod

namespace Posture

def value : Posture → String
  | dev => "dev"
  | research => "research"
  | prod => "prod"

/-- `Posture.from_env`; `k` apart, no letter of ASCII is the lower case of one outside it.
The posture named by `HI_AGENT_POSTURE`, `dev` when the
variable is unset, and the text of the `ValueError` for any other name. -/
def fromEnv (hiAgentPosture : Option String) : Except String Posture :=
  let raw := Text.lower (Text.strip (hiAgentPosture.getD "dev"))
  if raw = "dev" then .ok dev
  else if raw = "research" then .ok research
  else if raw = "prod" then .ok prod
  else .error ("HI_AGENT_POSTURE='" ++ raw ++
    "' is not valid; expected one of: dev, research, prod")

def isStrict : Posture → Bool
  | dev => false
  | research => true
  | prod => true

end Posture

/-- `resolve_runtime_mode`: the mode named by `HI_AGENT_POSTURE`, else the one named
by `HI_AGENT_ENV`, else `prod`. -/
def resolveRuntimeMode (hiAgentPosture hiAgentEnv : Option String) : String :=
  let modes := ["dev", "research", "prod"]
  let posture := Text.lower (Text.strip (hiAgentPosture.getD ""))
  let legacy := Text.lower (Text.strip (hiAgentEnv.getD ""))
  if posture ∈ modes then posture else if legacy ∈ modes then legacy else "prod"

end HiAgent.Server
