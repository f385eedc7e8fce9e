import ServiceChannel.Proofs.Channel.Generations
import ServiceChannel.Proofs.Channel.SendOutcomes

/-!
# Errors that end a connection

An error says whether the connection that it is about is at its end. Where reading ended it the
error says so, unless the socket failed; an operation on the engine never says so, whatever it fails
with, and leaves the connection to its slot; and an agent that may not send a payload for its size
is told that its connection is at its end, though nothing happened to it.

- `ReadOutcome.Explains.isTeardown`: the errors of the reading side.
- `Answer.Spares`, `Channel.call_spares`: the errors of operations on the engine.
- `Session.World.writePayload_cases`: the errors of an agent that sends.
- `teardown_errors`: which of them say that the connection is at its end.
- `misclassified`: the failed socket, and the payload that is too large.
-/

namespace ServiceChannel

/-! ## Reading -/

/-- The error that stands for an end says so, unless the socket failed. -/
theorem Teardown.isTeardown_toError_iff {reason : Teardown} :
    reason.toError.isTeardown = true ↔ ∀ error, reason ≠ .exception error := by
  cases reason <;> simp [Teardown.toError, Error.ofMessage, Error.isTeardown]

/-- A read that brings an end brings an error that says so, unless the read itself failed. -/
theorem ReadOutcome.Explains.isTeardown {outcome : ReadOutcome} {reason : Teardown}
    (explains : outcome.Explains reason) :
    reason.toError.isTeardown = !outcome.isFailure := by
  cases outcome <;> cases reason <;>
    first | exact explains.elim | rfl

/-! ## Operations on the engine -/

/-- If it is a failure, it does not say that a connection is at its end. -/
def Answer.Spares (answer : Answer) : Prop :=
  ∀ error, answer = .failed error → error.isTeardown = false

theorem Answer.Spares.failed {error : Error} (spares : error.isTeardown = false) :
    (Answer.failed error).Spares := by
  rintro _ ⟨⟩
  exact spares

namespace Channel

variable {κ : Type} [Kernel κ] (channel : Channel κ)

theorem create_spares : (Answer.ofUnit channel.create.1).Spares := by
  unfold create
  split
  · exact .failed rfl
  · split
    · split
      · exact .failed rfl
      · nofun
    · exact .failed rfl

theorem bind_spares : (Answer.ofUnit channel.bind.1).Spares := by
  unfold bind
  split
  · dsimp only
    split
    · exact .failed rfl
    · nofun
  · exact .failed rfl

theorem listen_spares : (Answer.ofUnit channel.listen.1).Spares := by
  unfold listen
  split
  · split
    · exact .failed rfl
    · rename_i socket _ _ after _
      obtain ⟨text, refused⟩ | ⟨container, -, done, -⟩ :=
        (after.setRendezvous (.listening socket)).subscribe_cases
      · rw [refused]
        exact .failed rfl
      · rw [done]
        nofun
  · exact .failed rfl

theorem sendPayload_spares (payload : Bytes) :
    (Answer.ofDelivery (channel.sendPayload payload).1).Spares := by
  unfold sendPayload
  split
  · exact .failed rfl
  · split
    · exact .failed rfl
    · split
      · exact .failed rfl
      · nofun

/-- A send fails before there is a payload, or because its payload is not sent. -/
theorem send_spares {call : EngineCall} (sends : call.isSend = true) :
    (channel.call call).1.Spares := by
  obtain ⟨payload, answered, -⟩ | ⟨answered, -⟩ := channel.send_cases sends
  · rw [answered]
    exact channel.sendPayload_spares payload
  · intro error failed
    rw [failed] at answered
    simp only [unsent, List.mem_cons, Answer.failed.injEq, reduceCtorEq, List.not_mem_nil,
      or_false] at answered
    obtain rfl | rfl := answered <;> rfl

theorem bridge_spares (connectivity : Connectivity) :
    (Answer.ofFlag (channel.bridge connectivity).1).Spares := by
  by_cases same : connectivity = channel.engine.connectivity
  · rw [bridge_of_eq same]
    nofun
  · rw [bridge_of_ne same]
    have sends : (channel.call (.sendConnectivity connectivity)).1.Spares := channel.send_spares rfl
    dsimp only [call] at sends
    generalize (channel.sendConnectivity connectivity).1 = result at sends
    cases result with
    | ok _ => nofun
    | error error => exact .failed (sends error rfl)

/-- No operation on the engine fails with an error that says that the connection is at its end. -/
theorem call_spares (call : EngineCall) : (channel.call call).1.Spares := by
  cases call with
  | create => exact channel.create_spares
  | bind => exact channel.bind_spares
  | listen => exact channel.listen_spares
  | cleanup | release | setConnectivity connectivity => nofun
  | reconcile =>
    simp only [Channel.call, reconcile]
    split
    · exact .failed rfl
    · exact channel.bridge_spares _
  | _ => exact channel.send_spares rfl

/-- An operation that fails leaves the connection to its slot. -/
theorem connection_call_of_failed {call : EngineCall} {error : Error}
    (failed : (channel.call call).1 = .failed error) :
    (channel.call call).2.engine.connection = channel.engine.connection := by
  have kept := channel.occupancy_call call
  rw [if_neg] at kept
  · exact congrArg Occupancy.connection kept
  · rintro (rfl | rfl) <;> cases failed

end Channel

/-! ## Agents -/

namespace Session.World

/-- An agent's payload is refused for its size before anything is written, or its frame is written
and the system says why it could not be. -/
theorem writePayload_cases (world : World) (agent : Agent) (payload : Bytes) :
    (Client.maxMessageSize < payload.length ∧ world.writePayload agent payload =
      (.error (.ofMessage (.tooLarge payload.length Client.maxMessageSize)), world)) ∨
    payload.length ≤ Client.maxMessageSize ∧ ∀ error,
      (world.writePayload agent payload).1 = .error error → ∃ system, error = .io system := by
  rcases Nat.lt_or_ge Client.maxMessageSize payload.length with large | fits
  · refine .inl ⟨large, ?_⟩
    rw [writePayload, Client.frame_of_large large]
  · refine .inr ⟨fits, fun error failed => ?_⟩
    rw [writePayload, Client.frame_of_fits fits] at failed
    dsimp only [write] at failed
    generalize (writeUpTo _ world agent.socket _).1 = result at failed
    cases result with
    | ok _ => cases failed
    | error system =>
      cases failed
      exact ⟨system, rfl⟩

end Session.World

/-- Which errors say that a connection is at its end, in every run.
The error that stands for an end that reading brought says so exactly if the read did not fail; the
reason is known from the read, and the run logs it.
An operation on the engine that fails says that it is not, and leaves the connection to its slot,
whatever the operation.
An agent that fails to send a payload is told so exactly if the payload is too large, and then
nothing is written; any other failure is the system's, and says that the connection goes on. -/
theorem teardown_errors {κ : Type} [Kernel κ] (kernel : κ) (config : Config)
    (container : Option Container) (inputs : List (Input κ)) :
    let channel := (Channel.fresh kernel config container).run inputs
    (∀ reason : Teardown, reason.toError.isTeardown = true ↔ ∀ error, reason ≠ .exception error) ∧
    (∀ input id reason, (channel.step input).occupancy.departures =
        channel.occupancy.departures ++ [(id, .closed reason)] →
      ∃ outcome, input = .read id outcome ∧ outcome.Explains reason ∧
        reason.toError.isTeardown = !outcome.isFailure) ∧
    (∀ call error, (channel.call call).1 = .failed error → error.isTeardown = false ∧
      (channel.call call).2.engine.connection = channel.engine.connection) ∧
    ∀ (world : Session.World) (agent : Session.Agent) (payload : Bytes) (error : Error),
      (world.writePayload agent payload).1 = .error error →
        (error.isTeardown = true ↔ Client.maxMessageSize < payload.length) ∧
        (Client.maxMessageSize < payload.length →
          (world.writePayload agent payload).2 = world) := by
  intro channel
  have sound : channel.occupancy.Sound :=
    Channel.run_sound (History.Ledger.fresh kernel config container).sound inputs
  refine ⟨fun _ => Teardown.isTeardown_toError_iff, fun input id reason left => ?read,
    fun call error failed => ⟨channel.call_spares call error failed,
      channel.connection_call_of_failed failed⟩,
    fun world agent payload error failed => ?agent⟩
  case read =>
    obtain ⟨departed, departs, ends⟩ := Channel.departures_step sound input
    obtain rfl : departed = some (id, .closed reason) := by
      have same := List.append_cancel_left (departs.symm.trans left)
      cases departed with
      | none => cases same
      | some departure => exact congrArg some (List.cons.inj same).1
    obtain ⟨-, ends, -⟩ := ends
    cases input with
    | read reader outcome =>
      obtain ⟨rfl, explains⟩ := ends
      exact ⟨outcome, rfl, explains, explains.isTeardown⟩
    | _ => exact ends.elim
  case agent =>
    obtain ⟨large, refused⟩ | ⟨fits, systems⟩ := world.writePayload_cases agent payload
    · rw [refused] at failed
      cases failed
      exact ⟨iff_of_true rfl large, fun _ => congrArg Prod.snd refused⟩
    · obtain ⟨system, rfl⟩ := systems error failed
      exact ⟨iff_of_false nofun (Nat.not_lt.2 fits), fun large => absurd large (Nat.not_lt.2 fits)⟩

/-- Errors on the wrong side. A connection is reset while it is read: it is closed, and the error
that stands for that does not say so. An agent's payload is one byte too large: nothing is written,
and the error says that the connection is at its end. -/
theorem misclassified :
    (let opened := (Channel.fresh (⟨[]⟩ : Script) {} (some .recording)).run [.accept 7]
      let reason : Teardown := .exception (.os .connectionReset)
      let closed := opened.step (.read 1 (.failed (.os .connectionReset)))
      opened.engine.connection = some ⟨1, 7⟩ ∧ closed.engine.connection = none ∧
        closed.occupancy.departures = [(1, .closed reason)] ∧
        reason.toError.isTeardown = false) ∧
    ∀ (world : Session.World) (agent : Session.Agent), ∃ error,
      world.writePayload agent (List.replicate (Client.maxMessageSize + 1) 0) =
        (.error error, world) ∧ error.isTeardown = true := by
  refine ⟨by decide +kernel, fun world agent => ?_⟩
  have large : Client.maxMessageSize <
      (List.replicate (Client.maxMessageSize + 1) (0 : UInt8)).length := by
    rw [List.length_replicate]
    exact Nat.lt_succ_self _
  obtain ⟨-, refused⟩ | ⟨fits, -⟩ := world.writePayload_cases agent
    (List.replicate (Client.maxMessageSize + 1) 0)
  · exact ⟨_, refused, rfl⟩
  · exact absurd large (Nat.not_lt.2 fits)

end ServiceChannel
