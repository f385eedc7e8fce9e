import ServiceChannel.Container
import ServiceChannel.Text.Quoted

/-!
# Descriptions of a channel

An engine and a container in words.

- `Engine.describe`: where the socket is, how far it is up, and what was exchanged last.
- `Container.describe`: the name, with what makes the container unique behind it.
-/

namespace ServiceChannel

/-- The description of an engine, field by field. -/
def Engine.describe (engine : Engine) : String :=
  "ServiceEngine \x7b socket_path: " ++ Text.describe engine.config.socketPath ++
    ", rendezvous: " ++ Text.describe engine.rendezvous.phase ++
    ", connected: " ++ (if engine.isConnected then "true" else "false") ++
    ", connectivity: " ++ engine.connectivity.label ++ " \x7d"

/-- The description of a container; `unique` stands for what makes it so. -/
def Container.describe (container : Container) (unique : String) : String :=
  container.name ++ " (" ++ unique ++ ")"

end ServiceChannel
