import ServiceChannel.Channel.BringUp

/-!
# Calls

Every operation on an engine and its container's connectivity, run from its description.

- `Channel.call`: runs one.
-/

namespace ServiceChannel.Channel

variable {κ : Type} [Kernel κ]

/-- Runs an operation. -/
def call (channel : Channel κ) : EngineCall → Answer × Channel κ
  | .create => let (result, channel) := channel.create; (.ofUnit result, channel)
  | .bind => let (result, channel) := channel.bind; (.ofUnit result, channel)
  | .listen => let (result, channel) := channel.listen; (.ofUnit result, channel)
  | .cleanup => (.done, channel.cleanup)
  | .release => (.done, channel.release)
  | .command command =>
    let (result, channel) := channel.sendCommand command; (.ofDelivery result, channel)
  | .sendName => let (result, channel) := channel.sendName; (.ofDelivery result, channel)
  | .sendDns => let (result, channel) := channel.sendDns; (.ofDelivery result, channel)
  | .sendConnectivity connectivity =>
    let (result, channel) := channel.sendConnectivity connectivity; (.ofDelivery result, channel)
  | .sendRecord record =>
    let (result, channel) := channel.sendRecord record; (.ofDelivery result, channel)
  | .notifyStorage remaining =>
    let (result, channel) := channel.notifyStorage remaining; (.ofDelivery result, channel)
  | .reconcile => let (result, channel) := channel.reconcile; (.ofFlag result, channel)
  | .setConnectivity connectivity => (.done, channel.setConnectivity connectivity)

end ServiceChannel.Channel
