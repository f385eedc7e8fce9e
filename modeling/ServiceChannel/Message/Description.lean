import ServiceChannel.Message.Host
import ServiceChannel.Text.Quoted

/-!
# Descriptions of messages

A message from the host as the program prints it: its kind, and what it carries behind it.

- `HostMessage.describe`: the description.
-/

namespace ServiceChannel

/-- The description of a text that may be absent. -/
def describeOption : Option String → String
  | some text => "Some(" ++ Text.describe text ++ ")"
  | none => "None"

/-- The description of bytes: their numbers. -/
def Bytes.describe (bytes : Bytes) : String :=
  "[" ++ String.intercalate ", " (bytes.map fun byte => toString byte.toNat) ++ "]"

namespace HostMessage

/-- The description of a message. -/
def describe : HostMessage → String
  | .shutdown => "Shutdown"
  | .suspend => "Suspend"
  | .resume => "Resume"
  | .audioSuspend => "AudioSuspend"
  | .audioResume => "AudioResume"
  | .connectivityChange connectivity => "ConnectivityChange(" ++ connectivity.label ++ ")"
  | .containerName name => "ContainerCfgName(" ++ Text.describe name ++ ")"
  | .containerDns server => "ContainerCfgDns(" ++ describeOption server ++ ")"
  | .auditRecord record => "AuditRecord(" ++ record.describe ++ ")"
  | .auditComplete => "AuditComplete"
  | .auditNotify remaining =>
    "AuditNotify \x7b remaining_storage: " ++ toString remaining.toNat ++ " \x7d"

end HostMessage
end ServiceChannel
