import Mathlib
import ServiceChannel.Proofs.Channel.Moorings
import ServiceChannel.Proofs.Channel.SendOutcomes
import ServiceChannel.Proofs.Channel.Stops

/-!
# Graceful and forced stops

A standalone container that is stopped asks its agent to shut down. It waits for the agent when the
whole frame of that request was written, and is forced down in every other case: without an engine,
without an agent, when the request is beyond the bound, and when the kernel refuses any of it.

- `shutdownFrame`: what the agent is to get.
- `Channel.Refuses`: a request that does not get as far as the kernel.
- `Channel.Halts`: how a stop ends.
- `Channel.StandsAlone.halts`: so ends every stop.
-/

namespace ServiceChannel

/-- The request to shut down, in its frame. -/
def shutdownFrame : Bytes := Frame.frame HostMessage.shutdown.encode

theorem shutdownFrame_ne_nil : shutdownFrame ≠ [] :=
  List.ne_nil_of_length_pos (by simp [shutdownFrame, Frame.headerLength])

example : shutdownFrame = [0, 0, 0, 2, 8, 1] := by cbv

namespace Channel

variable {κ : Type} {channel : Channel κ} {allowExec : Bool}

/-- A request to shut down does not get as far as the kernel: there is no engine, or no agent, or
the request is beyond the bound. -/
def Refuses (channel : Channel κ) : Prop :=
  channel.engine.released = true ∨ channel.engine.connection = none ∨
    channel.engine.config.maxMessageSize < HostMessage.shutdown.encode.length

variable [Kernel κ]

/-! ## The request -/

theorem sendPayload_eq_ok {payload : Bytes} {delivery : Delivery}
    (sent : (channel.sendPayload payload).1 = .ok delivery) : delivery = .sent := by
  unfold sendPayload at sent
  split at sent
  · cases sent
  · split at sent
    · cases sent
    · split at sent <;> cases sent
      rfl

/-- A request to shut down is never dropped or passed over: it is sent, or it fails. -/
theorem requestShutdown_eq_ok {delivery : Delivery}
    (answered : channel.requestShutdown.1 = .ok delivery) : delivery = .sent := by
  rw [requestShutdown_fst] at answered
  split at answered
  · exact sendPayload_eq_ok answered
  · cases answered

/-- A container is forced down for an error, and else its agent was sent the request. -/
theorem delivers_iff : channel.delivers = true ↔ channel.requestShutdown.1 = .ok .sent := by
  unfold delivers
  cases answered : channel.requestShutdown.1 with
  | error error => simp [Except.isOk, Except.toBool]
  | ok delivery => simp [Except.isOk, Except.toBool, requestShutdown_eq_ok answered]

theorem requestShutdown_eq_call (active : channel.engine.released = false) :
    Answer.ofDelivery channel.requestShutdown.1 = (channel.call (.command .shutdown)).1 ∧
      channel.requestShutdown.2.kernel = (channel.call (.command .shutdown)).2.kernel := by
  rw [requestShutdown, active]
  exact ⟨rfl, rfl⟩

/-- A request that does not get as far as the kernel fails, and the kernel is not asked. -/
theorem requestShutdown_of_refuses (refuses : channel.Refuses) :
    channel.requestShutdown.1 ≠ .ok .sent ∧ channel.requestShutdown.2.kernel = channel.kernel := by
  cases released : channel.engine.released with
  | true =>
    have unasked : channel.requestShutdown = (.error .notConnected, channel) := by
      rw [requestShutdown, released]
      rfl
    rw [unasked]
    exact ⟨by simp, rfl⟩
  | false =>
    obtain ⟨answered, asked⟩ := requestShutdown_eq_call released
    rw [asked]
    have failed (error : Error) (failed : (channel.call (.command .shutdown)).1 = .failed error) :
        channel.requestShutdown.1 ≠ .ok .sent := by
      intro sent
      rw [sent, failed] at answered
      cases answered
    cases current : channel.engine.connection with
    | none =>
      obtain ⟨answer, unasked⟩ := call_command_of_unconnected current .shutdown
      exact ⟨failed _ answer, unasked⟩
    | some connection =>
      obtain active | unconnected | large := refuses
      · rw [released] at active
        cases active
      · rw [current] at unconnected
        cases unconnected
      · have carries : EngineCall.payload? channel.container (.command .shutdown) =
            some HostMessage.shutdown.encode := rfl
        obtain ⟨answer, kernel⟩ := call_of_payload carries (by simp [current])
        rw [sendPayload_of_oversized large] at answer kernel
        exact ⟨failed _ answer, kernel⟩

/-- A request that gets as far as the kernel is taken in attempts. It was sent when they took all of
it, and else the last of them is the first that was refused. -/
theorem requestShutdown_writes (asks : ¬ channel.Refuses) :
    ∃ connection answers, channel.engine.connection = some connection ∧
      Attempts connection.socket channel.kernel shutdownFrame answers
        channel.requestShutdown.2.kernel ∧
      (channel.requestShutdown.1 = .ok .sent ↔
        shutdownFrame.length ≤ SendAnswer.total answers) ∧
      (channel.requestShutdown.1 = .ok .sent ↔ ∀ answer ∈ answers, answer.refusal? = none) := by
  obtain ⟨notReleased, attended⟩ := not_or.1 asks
  obtain ⟨connected, small⟩ := not_or.1 attended
  have active : channel.engine.released = false := Bool.not_eq_true _ ▸ notReleased
  obtain ⟨connection, current⟩ := Option.ne_none_iff_exists'.1 connected
  have carries : EngineCall.payload? channel.container (.command .shutdown) =
      some HostMessage.shutdown.encode := rfl
  obtain ⟨answered, asked⟩ := requestShutdown_eq_call active
  obtain ⟨called, written⟩ := call_of_payload carries fun _ => connected
  obtain ⟨answers, result, attempts, concludes, sent⟩ :=
    sendPayload_writes (Nat.le_of_not_lt small) current
  rw [called, sent] at answered
  rw [← written, ← asked] at attempts
  refine ⟨connection, answers, current, attempts, ?_⟩
  have sent_iff : channel.requestShutdown.1 = .ok .sent ↔ result = .ok () := by
    cases result with
    | ok _ =>
      refine ⟨fun _ => rfl, fun _ => ?_⟩
      cases answer : channel.requestShutdown.1 with
      | ok delivery => rw [requestShutdown_eq_ok answer]
      | error error => rw [answer] at answered; cases answered
    | error error =>
      refine ⟨fun sent => ?_, nofun⟩
      rw [sent] at answered
      cases answered
  refine ⟨sent_iff.trans concludes.ok_iff, sent_iff.trans ?_⟩
  cases concludes with
  | whole unrefused _ => exact ⟨fun _ => unrefused, fun _ => rfl⟩
  | @refused progress last error _ refusal _ =>
    refine ⟨nofun, fun unrefused => ?_⟩
    rw [unrefused last (by simp)] at refusal
    cases refusal

/-! ## The stop -/

theorem kernel_stopContainer (alone : channel.StandsAlone allowExec) :
    channel.stopContainer.kernel = channel.requestShutdown.2.kernel := by
  obtain ⟨container, standalone, there, role, -⟩ := alone.container
  unfold stopContainer
  rw [there]
  dsimp only
  rw [role]
  dsimp only
  split <;> rename_i asked <;> rw [asked] <;> exact kernel_setState _ _

theorem marks_stopContainer (channel : Channel κ) :
    channel.stopContainer.marks = channel.marks.map (·.more 1) := by
  rw [marks_eq_estate, estate_stopContainer, marks, estate_eq, Option.map_map, Option.map_map,
    Option.map_map]
  congr 1
  funext container
  simp [Container.marks_halted]

/-- A stop waits for the agent if the request was sent, and else forces the container down. -/
theorem StandsAlone.state_eq_of_sent (alone : channel.StandsAlone allowExec) :
    channel.stopContainer.state =
      if channel.requestShutdown.1 = .ok .sent then .shuttingDown else .stopped := by
  rw [alone.state_stopContainer]
  by_cases sent : channel.requestShutdown.1 = .ok .sent
  · rw [if_pos sent, delivers_iff.2 sent]
    rfl
  · rw [if_neg sent, Bool.eq_false_iff.2 (mt delivers_iff.1 sent)]
    rfl

/-- How a stop ends. -/
structure Halts (channel : Channel (Tapped κ)) : Prop where
  /-- The agent is waited for exactly when the whole request was written to the connection that is
  current. -/
  graceful_iff : channel.stopContainer.state = .shuttingDown ↔
    ∃ connection, channel.engine.connection = some connection ∧
      channel.stopContainer.kernel.written connection.socket =
        channel.kernel.written connection.socket ++ shutdownFrame
  /-- In every other case the container is down. -/
  forced_iff : channel.stopContainer.state = .stopped ↔ channel.stopContainer.state ≠ .shuttingDown
  /-- A request that does not get as far as the kernel is one of these cases, and nothing is written
  at all. -/
  refused : channel.Refuses →
    channel.stopContainer.state = .stopped ∧ channel.stopContainer.kernel = channel.kernel
  /-- Any other is offered to the kernel as a whole, and is one of these cases exactly when the
  kernel refuses any of it. -/
  offered : ¬ channel.Refuses →
    ∃ connection answers, channel.engine.connection = some connection ∧
      Attempts connection.socket channel.kernel shutdownFrame answers
        channel.stopContainer.kernel ∧
      (channel.stopContainer.state = .stopped ↔ ∃ answer ∈ answers, answer.refusal? ≠ none)
  /-- Only the current connection is written to. -/
  elsewhere : ∀ socket, (∀ connection ∈ channel.engine.connection, connection.socket ≠ socket) →
    channel.stopContainer.kernel.written socket = channel.kernel.written socket
  /-- Only a request that was sent counts, none that was dropped or passed over: an answer that is
  no error says that the request was sent. -/
  sent_iff : channel.stopContainer.state = .shuttingDown ↔ channel.requestShutdown.1 = .ok .sent
  answered : ∀ delivery, channel.requestShutdown.1 = .ok delivery → delivery = .sent
  /-- However it ends, it is noted that the container is to stop. -/
  noted : channel.stopContainer.marks = channel.marks.map (·.more 1)

/-- A stop of a standalone container ends as it should, in whatever state. -/
theorem StandsAlone.halts {channel : Channel (Tapped κ)} (alone : channel.StandsAlone allowExec) :
    channel.Halts := by
  have state := alone.state_eq_of_sent
  have sent_iff : channel.stopContainer.state = .shuttingDown ↔
      channel.requestShutdown.1 = .ok .sent := by
    rw [state]
    split <;> simp_all
  have forced_iff : channel.stopContainer.state = .stopped ↔
      channel.stopContainer.state ≠ .shuttingDown := by
    rw [state]
    split <;> simp
  have kernel := kernel_stopContainer alone
  by_cases refuses : channel.Refuses
  case pos =>
    obtain ⟨failed, unasked⟩ := requestShutdown_of_refuses refuses
    have kept : channel.stopContainer.kernel = channel.kernel := kernel.trans unasked
    -- The kernel was not asked, and the frame has bytes, so that it cannot have been written.
    have unwritten : ¬∃ connection, channel.engine.connection = some connection ∧
        channel.stopContainer.kernel.written connection.socket =
          channel.kernel.written connection.socket ++ shutdownFrame := by
      rintro ⟨connection, -, written⟩
      rw [kept] at written
      exact shutdownFrame_ne_nil (List.self_eq_append_right.1 written)
    exact ⟨iff_of_false (mt sent_iff.1 failed) unwritten, forced_iff,
      fun _ => ⟨forced_iff.2 (mt sent_iff.1 failed), kept⟩, fun asks => absurd refuses asks,
      fun socket _ => by rw [kept], sent_iff, fun _ => requestShutdown_eq_ok,
      channel.marks_stopContainer⟩
  case neg =>
    obtain ⟨connection, answers, current, attempts, whole, unrefused⟩ :=
      requestShutdown_writes refuses
    rw [← kernel] at attempts
    refine ⟨?graceful, forced_iff, fun refused => absurd refused refuses,
      fun _ => ⟨connection, answers, current, attempts, ?refusal⟩, fun socket other => ?elsewhere,
      sent_iff, fun _ => requestShutdown_eq_ok, channel.marks_stopContainer⟩
    case graceful =>
      rw [sent_iff, whole]
      constructor
      · intro all
        refine ⟨connection, current, ?_⟩
        rw [attempts.written, List.take_of_length_le all]
      · rintro ⟨same, there, written⟩
        obtain rfl : connection = same := Option.some.inj (current.symm.trans there)
        rw [attempts.written, List.append_cancel_left_eq] at written
        exact List.take_eq_self_iff _ |>.1 written
    case refusal =>
      rw [forced_iff, Ne, sent_iff, unrefused]
      simp
    case elsewhere => exact attempts.written_of_ne (other connection current).symm

end Channel
end ServiceChannel
