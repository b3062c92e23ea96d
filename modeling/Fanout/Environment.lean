import Fanout.Text.Blank
import Fanout.Text.Case

/-! The environment that a program runs in, which selects a layer of its configuration. -/

namespace Fanout

inductive Environment
  | dev
  | prod
  deriving DecidableEq, Repr, Inhabited

namespace Environment

def label : Environment → String
  | .dev => "dev"
  | .prod => "prod"

/-- The name of an environment, in any case and with blanks around it. An unknown name is refused
with a message. -/
def parse (name : String) : Except String Environment :=
  let name := Text.lower (Text.trim name)
  if name = "dev" then .ok .dev
  else if name = "prod" then .ok .prod
  else .error (name ++ " is not a supported environment, use either `dev` or `prod`")

/-- The variable that names the environment. -/
def variableName : String := "APP_ENVIRONMENT"

/-- The environment of a program, by the value of its variable. Without a readable value it is
`dev`. -/
def ofVariable : Option String → Except String Environment
  | some name => parse name
  | none => .ok .dev

end Environment

end Fanout
