import Outbox.Config.DotEnv
import Outbox.Config.Settings

/-!
# Where settings come from

Settings are read from the environment of a program, to which an environment file may have added.
-/

set_option autoImplicit false

namespace Outbox.Config

def Settings.ofEnvironment (environment : Environment) (file : Bytes) :
    Except ProgramError Settings :=
  load (DotEnv.load environment file).get?

end Outbox.Config
