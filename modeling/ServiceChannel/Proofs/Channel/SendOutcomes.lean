import Mathlib
import ServiceChannel.Proofs.Channel.Estate
import ServiceChannel.Proofs.Kernel.Script
import ServiceChannel.Proofs.Kernel.Tapped
import ServiceChannel.Session.Run

/-!
# What a send comes to

The sends of an engine share one way to the agent and differ before it: a send about the container
needs the container, a plain command without an agent is dropped or refused, and one command is
never written at all. Whatever gets past that is one payload, judged by its size first and by the
connection second, and then a frame that the kernel takes or does not.

- `EngineCall.payload?`: what a send puts into its frame.
- `Channel.call_of_payload`, `Channel.send_cases`: a send that has a payload is the send of that
  payload, and any other is answered at once.
- `Channel.sendPayload_writes`: what becomes of the frame.
- `send_outcomes`: what every send comes to in every state.
-/

namespace ServiceChannel

/-! ## Sends -/

namespace EngineCall

/-- The operation is a send. -/
def isSend : EngineCall → Bool
  | .command _ | .sendName | .sendDns | .sendConnectivity _ | .sendRecord _ | .notifyStorage _ =>
    true
  | _ => false

/-- The operation is a plain command. -/
def isPlain : EngineCall → Bool
  | .command _ => true
  | _ => false

/-- The operation sends something that it asks the container for. -/
def asksContainer : EngineCall → Bool
  | .sendName | .sendDns => true
  | _ => false

/-- What a send puts into a frame: the bytes of its message, or bytes as they were given. -/
def payload? (container : Option Container) : EngineCall → Option Bytes
  | .command plain => plain.message?.map HostMessage.encode
  | .sendName => container.map fun container => (HostMessage.containerName container.name).encode
  | .sendDns => container.map fun container => (HostMessage.containerDns container.dnsServer).encode
  | .sendConnectivity connectivity => some (HostMessage.connectivityChange connectivity).encode
  | .sendRecord record => some record
  | .notifyStorage remaining => some (HostMessage.auditNotify remaining).encode
  | _ => none

/-- A send has a payload, but for the command that is never written and for what a container is
asked for that is gone. -/
theorem exists_payload {call : EngineCall} (sends : call.isSend = true)
    {container : Option Container} (there : call.asksContainer = true → container ≠ none)
    (written : call ≠ .command .audioResume) :
    ∃ payload, call.payload? container = some payload := by
  refine Option.ne_none_iff_exists'.1 fun without => ?_
  cases call with
  | command command =>
    have unwritten := Command.message?_eq_none_iff.1 (Option.map_eq_none_iff.1 without)
    exact written (congrArg EngineCall.command unwritten)
  | sendName => exact there rfl (Option.map_eq_none_iff.1 without)
  | sendDns => exact there rfl (Option.map_eq_none_iff.1 without)
  | sendConnectivity | sendRecord | notifyStorage => cases without
  | _ => cases sends

end EngineCall

/-- The answer without saying how a message that could be sent fared. -/
def Answer.bare : Answer → Answer
  | .delivery _ => .done
  | answer => answer

theorem Answer.ofSent_eq (result : Except Error Delivery) :
    Answer.ofSent result = (Answer.ofDelivery result).bare := by
  cases result <;> rfl

/-- The send that a step for the audit store makes. -/
def Session.EngineStep.bridged? : Session.EngineStep → Option EngineCall
  | .bridgeRecord record => some (.sendRecord record)
  | .bridgeNotify remaining => some (.notifyStorage remaining)
  | .bridgeComplete => some (.command .auditComplete)
  | _ => none

namespace Channel

variable {κ : Type} [Kernel κ]

/-! ## Before a payload is sent -/

theorem call_of_gone {channel : Channel κ} {call : EngineCall} (asks : call.asksContainer = true)
    (gone : channel.container = none) :
    channel.call call = (.failed .containerGone, channel) := by
  cases call with
  | sendName | sendDns => simp only [call, sendName, sendDns, gone, Answer.ofDelivery]
  | _ => cases asks

/-- Without an agent a plain command writes nothing: it is dropped, or refused if it is the
shutdown. -/
theorem call_command_of_unconnected {channel : Channel κ}
    (unconnected : channel.engine.connection = none) (command : Command) :
    (channel.call (.command command)).1 =
        (if command = .shutdown then .failed .notConnected else .delivery .deferred) ∧
      (channel.call (.command command)).2.kernel = channel.kernel := by
  have alone : (channel.record (.sendingCommand command)).engine.connection = none := unconnected
  simp only [call, sendCommand, alone]
  split <;> exact ⟨rfl, rfl⟩

/-- With an agent the command without a message is passed over. -/
theorem call_audioResume_of_connected {channel : Channel κ} {connection : Connection}
    (current : channel.engine.connection = some connection) :
    (channel.call (.command .audioResume)).1 = .delivery .skipped ∧
      (channel.call (.command .audioResume)).2.kernel = channel.kernel := by
  have connected : (channel.record (.sendingCommand .audioResume)).engine.connection =
      some connection := current
  simp only [call, sendCommand, connected]
  exact ⟨rfl, rfl⟩

/-- A send that has a payload is the send of that payload, but for the log and what is remembered.
A plain command is one as long as there is an agent. -/
theorem call_of_payload {channel : Channel κ} {call : EngineCall} {payload : Bytes}
    (carries : call.payload? channel.container = some payload)
    (attended : call.isPlain = true → channel.engine.connection ≠ none) :
    (channel.call call).1 = .ofDelivery (channel.sendPayload payload).1 ∧
      (channel.call call).2.kernel = (channel.sendPayload payload).2.kernel := by
  -- Each send logs an event before it sends, which changes neither the answer nor the kernel.
  have logged (event : Event) (payload : Bytes) :
      ((channel.record event).sendPayload payload).1 = (channel.sendPayload payload).1 ∧
        ((channel.record event).sendPayload payload).2.kernel =
          (channel.sendPayload payload).2.kernel :=
    ⟨channel.sendPayload_record event payload, channel.kernel_sendPayload_record event payload⟩
  cases call with
  | command command =>
    obtain ⟨message, found, rfl⟩ := Option.map_eq_some_iff.1 carries
    obtain ⟨connection, current⟩ := Option.ne_none_iff_exists'.1 (attended rfl)
    have connected : (channel.record (.sendingCommand command)).engine.connection =
        some connection := current
    rw [← (logged (.sendingCommand command) message.encode).1,
      ← (logged (.sendingCommand command) message.encode).2]
    simp only [Channel.call, sendCommand, connected, found, sendMessage]
    split <;> rename_i sent <;> rw [sent] <;> exact ⟨rfl, rfl⟩
  | sendName =>
    obtain ⟨container, there, rfl⟩ := Option.map_eq_some_iff.1 carries
    rw [← (logged (.sendingName container.name) _).1, ← (logged (.sendingName container.name) _).2]
    simp only [Channel.call, sendName, there, sendMessage, and_self]
  | sendDns =>
    obtain ⟨container, there, rfl⟩ := Option.map_eq_some_iff.1 carries
    rw [← (logged (.sendingDns container.dnsServer) _).1,
      ← (logged (.sendingDns container.dnsServer) _).2]
    simp only [Channel.call, sendDns, there, sendMessage, and_self]
  | sendConnectivity connectivity =>
    obtain rfl := Option.some.inj carries
    rw [← (logged (.sendingConnectivity connectivity) _).1,
      ← (logged (.sendingConnectivity connectivity) _).2]
    simp only [Channel.call, sendConnectivity, sendMessage]
    split <;> rename_i sent <;> rw [sent] <;> exact ⟨rfl, rfl⟩
  | sendRecord record =>
    obtain rfl := Option.some.inj carries
    rw [← (logged (.sendingRecord record.length) _).1,
      ← (logged (.sendingRecord record.length) _).2]
    simp only [Channel.call, sendRecord]
    split <;> rename_i sent <;> rw [sent] <;> exact ⟨rfl, rfl⟩
  | notifyStorage remaining =>
    obtain rfl := Option.some.inj carries
    rw [← (logged (.notifyingStorage remaining) _).1, ← (logged (.notifyingStorage remaining) _).2]
    simp only [Channel.call, notifyStorage, sendMessage, and_self]
  | _ => cases carries

/-- The answers of sends that never have a payload. -/
def unsent : List Answer :=
  [.failed .containerGone, .failed .notConnected, .delivery .deferred, .delivery .skipped]

/-- A send is the send of a payload, or is answered without asking the kernel. -/
theorem send_cases (channel : Channel κ) {call : EngineCall} (sends : call.isSend = true) :
    (∃ payload, (channel.call call).1 = .ofDelivery (channel.sendPayload payload).1 ∧
      (channel.call call).2.kernel = (channel.sendPayload payload).2.kernel) ∨
    (channel.call call).1 ∈ unsent ∧ (channel.call call).2.kernel = channel.kernel := by
  by_cases gone : call.asksContainer = true ∧ channel.container = none
  · rw [call_of_gone gone.1 gone.2]
    exact .inr ⟨List.mem_cons_self, rfl⟩
  by_cases alone : call.isPlain = true ∧ channel.engine.connection = none
  · obtain ⟨command, rfl⟩ : ∃ command, call = .command command := by
      cases call with
      | command command => exact ⟨command, rfl⟩
      | _ => cases alone.1
    obtain ⟨answered, unasked⟩ := call_command_of_unconnected alone.2 command
    refine .inr ⟨?_, unasked⟩
    rw [answered]
    split <;> decide
  have attended (plain : call.isPlain = true) : channel.engine.connection ≠ none :=
    fun unconnected => alone ⟨plain, unconnected⟩
  by_cases unwritten : call = .command .audioResume
  · subst unwritten
    obtain ⟨connection, current⟩ := Option.ne_none_iff_exists'.1 (attended rfl)
    obtain ⟨answered, unasked⟩ := call_audioResume_of_connected current
    refine .inr ⟨?_, unasked⟩
    rw [answered]
    decide
  · obtain ⟨payload, carries⟩ :=
      EngineCall.exists_payload sends (fun asks without => gone ⟨asks, without⟩) unwritten
    exact .inl ⟨payload, call_of_payload carries attended⟩

/-! ## A payload on its way -/

/-- A payload within the bound goes to the agent in its frame, which the kernel takes in attempts.
The answer is how they conclude. -/
theorem sendPayload_writes {channel : Channel κ} {connection : Connection} {payload : Bytes}
    (fits : payload.length ≤ channel.engine.config.maxMessageSize)
    (current : channel.engine.connection = some connection) :
    ∃ answers result,
      Attempts connection.socket channel.kernel (Frame.frame payload) answers
        (channel.sendPayload payload).2.kernel ∧
      Concludes (Frame.frame payload).length answers result ∧
      (channel.sendPayload payload).1 = match result with
        | .ok () => .ok .sent
        | .error error => .error (.send error.message) := by
  obtain ⟨answers, attempts, concludes⟩ :=
    sendAll_attempts channel.kernel connection.socket (Frame.frame payload)
  refine ⟨answers, _, ?_, concludes, ?_⟩
  · rw [sendPayload_of_connected fits current]
    split <;> rename_i sent <;> rw [sent] at attempts <;> exact attempts
  · rw [sendPayload_of_connected fits current]
    split <;> rename_i sent <;> rw [sent]

/-- A payload without an agent is refused: for its size if it is too large, else because nobody is
there. -/
theorem call_of_unconnected {channel : Channel κ} {call : EngineCall} {payload : Bytes}
    (carries : call.payload? channel.container = some payload) (plain : call.isPlain = false)
    (unconnected : channel.engine.connection = none) :
    (channel.call call).1 = .failed (if channel.engine.config.maxMessageSize < payload.length then
        .send (MessageError.tooLarge payload.length channel.engine.config.maxMessageSize).message
      else .notConnected) ∧
    (channel.call call).2.kernel = channel.kernel := by
  have attended : call.isPlain = true → channel.engine.connection ≠ none := by simp [plain]
  obtain ⟨answered, asked⟩ := call_of_payload carries attended
  by_cases large : channel.engine.config.maxMessageSize < payload.length
  · rw [sendPayload_of_oversized large] at answered asked
    rw [if_pos large]
    exact ⟨answered, asked⟩
  · rw [sendPayload_of_unconnected (Nat.le_of_not_lt large) unconnected] at answered asked
    rw [if_neg large]
    exact ⟨answered, asked⟩

/-! ## What stays -/

/-- A send holds what the channel held. Only a connectivity that was sent is remembered. -/
theorem holdings_call_of_isSend (channel : Channel κ) {call : EngineCall}
    (sends : call.isSend = true) :
    (channel.call call).2.holdings = channel.holdings ∨
      ∃ connectivity, call = .sendConnectivity connectivity ∧
        (channel.call call).1 = .delivery .sent ∧
        (channel.call call).2.holdings = channel.holdings.remember connectivity := by
  cases call with
  | command command => exact .inl (channel.holdings_sendCommand command)
  | sendName => exact .inl channel.holdings_sendName
  | sendDns => exact .inl channel.holdings_sendDns
  | sendRecord record => exact .inl (channel.holdings_sendRecord record)
  | notifyStorage remaining =>
    simp only [Channel.call]
    exact .inl (channel.holdings_notifyStorage remaining)
  | sendConnectivity connectivity =>
    simp only [Channel.call]
    obtain ⟨delivered, remembered⟩ | ⟨error, failed, kept⟩ :=
      channel.sendConnectivity_cases connectivity
    · exact .inr ⟨connectivity, rfl, congrArg Answer.ofDelivery delivered, remembered⟩
    · exact .inl kept
  | _ => cases sends

end Channel

/-! ## The audit store -/

/-- A step for the audit store is its send, whose answer does not say how the message fared. -/
theorem Session.World.takeEngine_of_bridged (world : Session.World) {step : Session.EngineStep}
    {call : EngineCall} (bridged : step.bridged? = some call) :
    world.takeEngine step =
      (.answer (world.host.call call).1.bare, world.withHost (world.host.call call).2) := by
  cases step with
  | bridgeRecord | bridgeNotify | bridgeComplete =>
    obtain rfl := Option.some.inj bridged
    simp only [Session.World.takeEngine, Channel.call, Answer.ofSent_eq]
  | _ => cases bridged

/-! ## Every send -/

/-- What a send comes to, whatever the kernel does.
A send about the container fails when the container is gone. Without an agent the shutdown is
refused and every other plain command dropped; what carries a payload fails, for its size if it is
too large, else for want of an agent. Up to here the kernel is not asked at all.
With an agent, which stays whatever happens, resuming audio is passed over and a payload that is too
large refused, both without asking the kernel. Any other payload is offered to it unchanged behind
its length in four bytes, and the send succeeds exactly when all of that was taken. An interruption
is followed by another attempt, and the first refusal is why a send fails.
A send changes nothing that is held but the connectivity remembered, and that when it was sent.
The steps for the audit store are such sends, and do not tell a message that was dropped from one
that was sent. -/
theorem send_outcomes {κ : Type} [Kernel κ] (channel : Channel κ) (call : EngineCall)
    (sends : call.isSend = true) :
    let answer := (channel.call call).1
    let after := (channel.call call).2
    let max := channel.engine.config.maxMessageSize
    let tooLarge (payload : Bytes) : Error :=
      .send (MessageError.tooLarge payload.length max).message
    (call.asksContainer = true → channel.container = none →
      answer = .failed .containerGone ∧ after.kernel = channel.kernel) ∧
    ((call.asksContainer = true → channel.container ≠ none) →
      (channel.engine.connection = none →
        after.kernel = channel.kernel ∧
        (call = .command .shutdown → answer = .failed .notConnected) ∧
        (∀ command, command ≠ .shutdown → call = .command command →
          answer = .delivery .deferred) ∧
        (call.isPlain = false → ∃ payload, call.payload? channel.container = some payload ∧
          answer = .failed (if max < payload.length then tooLarge payload else .notConnected))) ∧
      ∀ connection, channel.engine.connection = some connection →
        after.engine.connection = some connection ∧
        (call = .command .audioResume →
          answer = .delivery .skipped ∧ after.kernel = channel.kernel) ∧
        (call ≠ .command .audioResume → ∃ payload,
          call.payload? channel.container = some payload ∧
          (max < payload.length →
            answer = .failed (tooLarge payload) ∧ after.kernel = channel.kernel) ∧
          (payload.length ≤ max →
            let frame := Bytes.bigEndian 4 payload.length ++ payload
            ∃ answers, Attempts connection.socket channel.kernel frame answers after.kernel ∧
              (answer = .delivery .sent ↔ frame.length ≤ SendAnswer.total answers) ∧
              ((answer = .delivery .sent ∧ ∀ each ∈ answers, each.refusal? = none) ∨
                ∃ progress last error, answers = progress ++ [last] ∧
                  (∀ each ∈ progress, each.refusal? = none) ∧
                  last.refusal? = some error ∧ answer = .failed (.send error.message))))) ∧
    (after.holdings = channel.holdings ∨ ∃ connectivity, call = .sendConnectivity connectivity ∧
      answer = .delivery .sent ∧ after.holdings = channel.holdings.remember connectivity) ∧
    ∀ (world : Session.World) (step : Session.EngineStep), step.bridged? = some call →
      world.takeEngine step =
        (.answer (world.host.call call).1.bare, world.withHost (world.host.call call).2) := by
  intro answer after max tooLarge
  have kept := channel.holdings_call_of_isSend sends
  refine ⟨fun asks gone => ?gone, fun there => ⟨fun unconnected => ?unconnected,
    fun connection current => ⟨?stays, ?skipped, fun written => ?written⟩⟩, kept,
    fun world step bridged => ?bridged⟩
  case gone =>
    have refused : channel.call call = (.failed .containerGone, channel) :=
      Channel.call_of_gone asks gone
    exact ⟨congrArg (·.1) refused, congrArg (·.2.kernel) refused⟩
  case unconnected =>
    cases plain : call.isPlain with
    -- A plain command looks for an agent before it has a payload, anything else after that.
    | true =>
      obtain ⟨command, rfl⟩ : ∃ command, call = .command command := by
        cases call with
        | command command => exact ⟨command, rfl⟩
        | _ => cases plain
      obtain ⟨answered, unasked⟩ := Channel.call_command_of_unconnected unconnected command
      refine ⟨unasked, fun shutdown => ?_, fun other kept same => ?_, nofun⟩
      · exact answered.trans (if_pos (EngineCall.command.inj shutdown))
      · exact answered.trans (if_neg (EngineCall.command.inj same ▸ kept))
    | false =>
      have written : call ≠ .command .audioResume := by
        rintro rfl
        cases plain
      obtain ⟨payload, carries⟩ := EngineCall.exists_payload sends there written
      obtain ⟨answered, unasked⟩ := Channel.call_of_unconnected carries plain unconnected
      refine ⟨unasked, ?_, ?_, fun _ => ⟨payload, carries, answered⟩⟩
      · rintro rfl
        cases plain
      · rintro command - rfl
        cases plain
  case stays =>
    -- Writing that fails closes nothing: the connection is among what a send holds.
    obtain same | ⟨connectivity, -, -, remembered⟩ := kept
    · exact (congrArg (·.engine.connection) same).trans current
    · exact (congrArg (·.engine.connection) remembered).trans current
  case skipped =>
    rintro rfl
    exact Channel.call_audioResume_of_connected current
  case written =>
    obtain ⟨payload, carries⟩ := EngineCall.exists_payload sends there written
    have attended : call.isPlain = true → channel.engine.connection ≠ none := by simp [current]
    obtain ⟨answered, asked⟩ := Channel.call_of_payload carries attended
    -- From here on every send is the same: one payload, judged by its size and then by the kernel.
    refine ⟨payload, carries, fun large => ?_, fun fits => ?_⟩
    · rw [Channel.sendPayload_of_oversized large] at answered asked
      exact ⟨answered, asked⟩
    · obtain ⟨answers, result, attempts, concludes, delivered⟩ :=
        Channel.sendPayload_writes fits current
      rw [delivered] at answered
      rw [← asked] at attempts
      refine ⟨answers, attempts, ?_, ?_⟩
      · refine Iff.trans ?_ concludes.ok_iff
        cases result with
        | ok _ => exact ⟨fun _ => rfl, fun _ => answered⟩
        | error error => exact ⟨fun sent => (nomatch answered.symm.trans sent), nofun⟩
      · cases concludes with
        | whole unrefused _ => exact .inl ⟨answered, unrefused⟩
        | refused unrefused refusal _ =>
          exact .inr ⟨_, _, _, rfl, unrefused, refusal, answered⟩
  case bridged => exact world.takeEngine_of_bridged bridged

/-- An audit record that an interruption holds up, of whose frame three bytes are taken before there
is no more room: the send fails with what the kernel said, and the agent stays. -/
theorem record_without_room :
    let start := Channel.fresh
      (⟨⟨[.interrupted, .wrote 3, .failed (.os .wouldBlock)]⟩, []⟩ : Tapped Script)
      { socketDir := "", socketName := "s" } (some .recording)
    let channel := start.run [.call .create, .call .bind, .call .listen, .accept 7]
    let call : EngineCall := .sendRecord [1, 2]
    call.isSend = true ∧ channel.engine.connection = some ⟨1, 7⟩ ∧
      (channel.call call).2.engine.connection = some ⟨1, 7⟩ ∧
      (channel.call call).1 =
        .failed (.send "Resource temporarily unavailable (os error 11)") ∧
      (channel.call call).2.kernel.written 7 = [0, 0, 0] := by
  refine ⟨rfl, ?current, ?stays, ?answer, ?written⟩
  case stays => exact ((((send_outcomes _ (.sendRecord [1, 2]) rfl).2.1 nofun).2 _) ?current).1
  case current => decide +kernel
  case answer => cbv
  case written => cbv

end ServiceChannel
