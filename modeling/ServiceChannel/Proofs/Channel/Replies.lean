import ServiceChannel.Proofs.Channel.Containment
import ServiceChannel.Proofs.Channel.Estate
import ServiceChannel.Proofs.Channel.Exchange
import ServiceChannel.Proofs.Channel.Moorings
import ServiceChannel.Proofs.Channel.Tracing
import ServiceChannel.Proofs.Kernel.HalfClosed

/-!
# Replies

An agent asks for the name of its container and for its DNS server. Every request is answered on the
connection on which it came, with what holds at that moment, and nothing else that an agent says is.

- `AgentMessage.reply?`, `Handover.reply?`: what answers a message, and a payload.
- `Channel.Serves`: nobody else has the engine send anything.
- `Channel.handle_of_reply`: a request, whether its reply can be sent or not.
- `Channel.Serves.written_receive`: what a read leaves on the connection.
- `requests_answered`: what holds in every run.
-/

namespace ServiceChannel

/-! ## Requests -/

/-- What answers a message from the agent of a container. -/
def AgentMessage.reply? (container : Container) : AgentMessage → Option HostMessage
  | .nameRequest => some (.containerName container.name)
  | .dnsRequest => some (.containerDns container.dnsServer)
  | _ => none

/-- Whether a message is answered does not depend on the container. -/
theorem AgentMessage.reply?_of_none {message : AgentMessage} {container : Container}
    (unanswered : message.reply? container = none) (other : Container) :
    message.reply? other = none := by
  cases message <;> first | rfl | cases unanswered

namespace Handover

variable {κ : Type}

/-- What answers a payload, as the container is when the payload is handed over. -/
def reply? (handover : Handover κ) : Option HostMessage :=
  handover.channel.container.bind fun container =>
    (AgentMessage.decode handover.payload).toOption.bind (AgentMessage.reply? container)

/-- A payload is answered exactly if its fields carry one of the two requests, and the container is
there. -/
theorem reply?_eq_some_iff {handover : Handover κ} {reply : HostMessage} :
    handover.reply? = some reply ↔ ∃ container fields,
      handover.channel.container = some container ∧
        AgentFields.SpelledBy fields handover.payload ∧
          (AgentMessage.nameRequest.CarriedBy fields ∧ reply = .containerName container.name ∨
            AgentMessage.dnsRequest.CarriedBy fields ∧
              reply = .containerDns container.dnsServer) := by
  constructor
  · intro answers
    obtain ⟨container, there, answers⟩ := Option.bind_eq_some_iff.1 answers
    cases read : AgentMessage.decode handover.payload with
    | error error =>
      rw [read] at answers
      cases answers
    | ok message =>
      rw [read] at answers
      obtain ⟨fields, spelled, carried⟩ := AgentMessage.decode_eq_ok_iff.1 read
      refine ⟨container, fields, there, spelled, ?_⟩
      cases message with
      | nameRequest =>
        cases answers
        exact .inl ⟨carried, rfl⟩
      | dnsRequest =>
        cases answers
        exact .inr ⟨carried, rfl⟩
      | _ => cases answers
  · rintro ⟨container, fields, there, spelled, ⟨carried, rfl⟩ | ⟨carried, rfl⟩⟩ <;>
    · rw [reply?, there, AgentMessage.decode_eq_ok_iff.2 ⟨fields, spelled, carried⟩]
      rfl

end Handover

theorem filterMap_reply? {κ : Type} (handover : Handover κ) :
    [handover].filterMap Handover.reply? = handover.reply?.toList := by
  cases answers : handover.reply? <;> simp [answers]

namespace Channel

variable {κ : Type} [Kernel κ]

/-- What is logged before a message is sent makes no difference to the sending. -/
theorem sendMessage_announced (channel : Channel κ) (received announced : Event)
    (message : HostMessage) :
    let sent := (((channel.record received).record announced).sendMessage message).2
    sent.holdings = channel.holdings ∧ sent.kernel = (channel.sendMessage message).2.kernel := by
  refine ⟨((channel.record received).record announced).holdings_sendMessage message, ?_⟩
  exact ((channel.record received).kernel_sendPayload_record announced message.encode).trans
    (channel.kernel_sendPayload_record received message.encode)

/-- A request is answered with one message, and its handling changes nothing but the kernel and the
log, whether the reply could be sent or not. -/
theorem handle_of_reply {channel : Channel κ} {container : Container}
    (there : channel.container = some container) {message : AgentMessage} {reply : HostMessage}
    (answers : message.reply? container = some reply) :
    (channel.handle message).holdings = channel.holdings ∧
      (channel.handle message).kernel = (channel.sendMessage reply).2.kernel := by
  have found (event : Event) : (channel.record event).container = some container := there
  unfold handle
  rw [there]
  dsimp only
  cases message with
  | nameRequest =>
    cases answers
    have sent := channel.sendMessage_announced (.received AgentMessage.nameRequest.code)
      (.sendingName container.name) (.containerName container.name)
    dsimp only [handleFor, sendName]
    rw [found]
    dsimp only
    split <;> rename_i result <;> rw [result] at sent <;> exact sent
  | dnsRequest =>
    cases answers
    have sent := channel.sendMessage_announced (.received AgentMessage.dnsRequest.code)
      (.sendingDns container.dnsServer) (.containerDns container.dnsServer)
    dsimp only [handleFor, sendDns]
    rw [found]
    dsimp only
    split <;> rename_i result <;> rw [result] at sent <;> exact sent
  | _ => cases answers

/-- So it is with a payload that is answered. -/
theorem handlePayload_of_reply {channel : Channel κ} {id : Nat} {payload : Bytes}
    {reply : HostMessage} (answers : Handover.reply? ⟨channel, id, payload⟩ = some reply) :
    (channel.handlePayload payload).1 = .ok () ∧
      (channel.handlePayload payload).2.holdings = channel.holdings ∧
      (channel.handlePayload payload).2.kernel = (channel.sendMessage reply).2.kernel := by
  obtain ⟨container, there, answers⟩ := Option.bind_eq_some_iff.1 answers
  unfold handlePayload
  dsimp only at there answers
  cases read : AgentMessage.decode payload with
  | error error =>
    rw [read] at answers
    cases answers
  | ok message =>
    rw [read] at answers
    exact ⟨rfl, handle_of_reply there answers⟩

end Channel

/-! ## Containers that leave the engine alone -/

/-- What a recording container does when it is stopped; one that stands on its own has no hook. -/
def Container.hook? (container : Container) : Option (List EngineCall) :=
  match container.role with
  | .recording recording => some recording.hook
  | .standalone _ => none

namespace Container

@[simp] theorem hook?_estate (container : Container) :
    container.estate.hook? = container.hook? := by
  obtain ⟨_, _, _, _, _, _, _, _ | _⟩ := container <;> rfl

/-- No message makes another kind of container, or gives it another hook. -/
@[simp] theorem hook?_obey (container : Container) (delivered : Bool) (message : AgentMessage) :
    (container.obey delivered message).hook? = container.hook? := by
  obtain ⟨_, _, _, _, _, _, _, _ | _⟩ := container <;> cases message with
    | shutdown =>
      unfold obey
      dsimp only
      split <;> rfl
    | _ => rfl

end Container

namespace Channel

variable {κ : Type}

/-- The engine serves a recording container that does nothing when it is stopped, and that nobody
but engines observes; or one that has gone. -/
structure Serves (channel : Channel κ) : Prop where
  hookless : ∀ container, channel.container = some container → container.hook? = some []
  unwatched : channel.Unwatched

instance (channel : Channel κ) : Decidable channel.Serves :=
  decidable_of_iff
    ((∀ container ∈ channel.container, container.hook? = some []) ∧
      ∀ entry ∈ channel.audience, entry.2 = .bridge)
    ⟨fun both => ⟨fun container there => both.1 container there, both.2⟩,
      fun serves => ⟨fun container there => serves.hookless container there, serves.unwatched⟩⟩

namespace Serves

variable {channel after : Channel κ}

theorem recording (serves : channel.Serves) {container : Container}
    (there : channel.container = some container) :
    ∃ recording, container.role = .recording recording ∧ recording.hook = [] := by
  have hookless := serves.hookless container there
  unfold Container.hook? at hookless
  split at hookless
  · rename_i recording role
    exact ⟨recording, role, Option.some.inj hookless⟩
  · cases hookless

theorem of_eq (serves : channel.Serves) (container : after.container = channel.container) :
    after.Serves where
  hookless := container ▸ serves.hookless
  unwatched := by
    rw [Unwatched, audience, container]
    exact serves.unwatched

theorem unwatched_of_home (serves : channel.Serves)
    (home : after.container.map Container.home = channel.container.map Container.home) :
    after.Unwatched := by
  have heard (channel : Channel κ) : channel.audience =
      ((channel.container.map Container.home).map (·.observers.entries)).getD [] := by
    rw [Option.map_map]
    rfl
  rw [Unwatched, heard, home, ← heard]
  exact serves.unwatched

variable [Kernel κ]

omit [Kernel κ] in
theorem not_letsGo (serves : channel.Serves) : ¬ channel.LetsGo := by
  rintro ⟨container, recording, there, role, letsGo⟩
  obtain ⟨other, same, hookless⟩ := serves.recording there
  cases role.symm.trans same
  simp [hookless] at letsGo

theorem occupancy_handlePayload (serves : channel.Serves) (payload : Bytes) :
    (channel.handlePayload payload).2.occupancy = channel.occupancy := by
  unfold Channel.handlePayload
  split
  · exact occupancy_handle_of_keeps fun _ => serves.not_letsGo
  · split <;> simp

/-- A program that a recording container is asked for is no business of the kernel. -/
theorem kernel_exec (serves : channel.Serves) (arguments : List String) :
    (channel.exec arguments).2.kernel = channel.kernel := by
  unfold exec
  split
  · rfl
  · rename_i container there
    obtain ⟨recording, role, -⟩ := serves.recording there
    rw [role]

theorem stopContainer (serves : channel.Serves) :
    channel.stopContainer.container.map Container.home = channel.container.map Container.home ∧
      channel.stopContainer.kernel = channel.kernel := by
  unfold Channel.stopContainer
  split
  · exact ⟨rfl, rfl⟩
  · rename_i container there
    obtain ⟨recording, role, hookless⟩ := serves.recording there
    rw [role]
    dsimp only
    rw [hookless, there]
    refine ⟨?_, rfl⟩
    simp [runHook, Container.home, Container.isStandalone, role]

/-- A message that is no request leaves the observers and the kernel alone. -/
theorem handle_of_silent (serves : channel.Serves) {message : AgentMessage}
    (silent : ∀ container, message.reply? container = none) :
    (channel.handle message).container.map Container.home = channel.container.map Container.home ∧
      (channel.handle message).kernel = channel.kernel := by
  -- What is done with the container keeps it moored.
  have moored {after : Channel κ} (same : after.moorings = channel.moorings) :
      after.container.map Container.home = channel.container.map Container.home :=
    congrArg Moorings.home same
  cases there : channel.container with
  | none =>
    rw [handle, there]
    exact ⟨congrArg _ there, rfl⟩
  | some container =>
    have handled : channel.handle message =
        (channel.record (.received message.code)).handleFor container message := by
      rw [handle, there]
    rw [← there]
    cases message with
    | bootCompleted =>
      rw [handled]
      exact ⟨moored (moorings_setState _ _), kernel_setState _ _⟩
    | audioSuspendCompleted => exact handled ▸ ⟨rfl, rfl⟩
    | audioResumeCompleted => exact handled ▸ ⟨rfl, rfl⟩
    | suspendCompleted =>
      rw [handled]
      exact ⟨moored (moorings_setScreenOn _ _), kernel_setScreenOn _ _⟩
    | resumeCompleted =>
      rw [handled]
      exact ⟨moored (moorings_setScreenOn _ _), kernel_setScreenOn _ _⟩
    | shutdown =>
      -- A stop is run at most, and its hook is empty.
      have asked : ((channel.record (.received AgentMessage.shutdown.code)).record
          .shutdownRequested).Serves := serves.of_eq rfl
      have stopped := asked.stopContainer
      rw [handled]
      dsimp only [handleFor]
      unfold handleShutdown
      split
      · exact ⟨rfl, rfl⟩
      · exact ⟨rfl, rfl⟩
      · exact stopped
    | masterClear =>
      rw [handled]
      exact ⟨moored (moorings_wipe _), kernel_wipe _⟩
    | connectivityChange connectivity =>
      -- What the agent reports is remembered before the bridge is told of it, so that the bridge
      -- finds nothing to send; and no watcher is there to have something sent in turn.
      have alive : channel.container.isSome = true := by rw [there]; rfl
      obtain ⟨held, kernel⟩ := holdings_handle_report alive serves.unwatched connectivity
      refine ⟨?_, kernel⟩
      rw [show (channel.handle (.connectivityChange connectivity)).container = _ from
        congrArg Holdings.container held, Option.map_map]
      rfl
    | identity update =>
      rw [handled]
      exact ⟨moored (moorings_applyIdentity _ _), kernel_applyIdentity _ _⟩
    | nameRequest => cases silent container
    | dnsRequest => cases silent container
    -- A recording container notes the arguments and does not ask the kernel to run anything.
    | exec path params =>
      have asked : ((channel.record (.received (AgentMessage.exec path params).code)).record
          (.executing (path :: params))).Serves := serves.of_eq rfl
      have ran := asked.kernel_exec (path :: params)
      have kept := moorings_exec ((channel.record (.received
        (AgentMessage.exec path params).code)).record (.executing (path :: params)))
        (path :: params)
      rw [handled]
      dsimp only [handleFor]
      split <;> rename_i result <;> rw [result] at ran kept <;> exact ⟨moored kept, ran⟩
    | auditAck ack =>
      rw [handled]
      exact ⟨moored (moorings_acknowledgeAudit _ _), kernel_acknowledgeAudit _ _⟩

/-- So the container leaves the engine alone from then on. -/
theorem handle (serves : channel.Serves) (message : AgentMessage) :
    (channel.handle message).Serves := by
  constructor
  · intro container there
    have obeyed := channel.estate_handle message
    rw [estate_eq, there, estate_eq, Option.map_map] at obeyed
    obtain ⟨before, known, same⟩ := Option.map_eq_some_iff.1 obeyed.symm
    have hook := congrArg Container.hook? same
    rw [Function.comp, Container.hook?_obey, Container.hook?_estate,
      Container.hook?_estate] at hook
    rw [← hook]
    exact serves.hookless before known
  · cases there : channel.container with
    | none =>
      rw [Channel.handle, there]
      exact (serves.of_eq rfl).unwatched
    | some container =>
      cases answers : message.reply? container with
      | none =>
        exact serves.unwatched_of_home
          (serves.handle_of_silent (AgentMessage.reply?_of_none answers)).1
      | some reply =>
        have held := (handle_of_reply there answers).1
        exact (serves.of_eq (congrArg Holdings.container held)).unwatched

theorem handlePayload (serves : channel.Serves) (payload : Bytes) :
    (channel.handlePayload payload).2.Serves := by
  unfold Channel.handlePayload
  split
  · exact serves.handle _
  · split <;> exact serves.of_eq rfl

end Serves

/-! ## Writing -/

/-- A connection that is closed leaves the slot empty, and the container and the kernel alone. -/
theorem close_cases (channel : Channel κ) (id : Nat) (reason : Teardown) :
    (channel.close id reason).kernel = channel.kernel ∧
      (channel.close id reason).container = channel.container ∧
      ((channel.close id reason).engine.connection = channel.engine.connection ∨
        (channel.close id reason).engine.connection = none) := by
  unfold close
  split
  · exact ⟨rfl, rfl, .inl rfl⟩
  · split
    · exact ⟨rfl, rfl, .inr rfl⟩
    · exact ⟨rfl, rfl, .inl rfl⟩

variable [Kernel κ]

/-- What is sent is written to the open connection, and nowhere else. -/
theorem written_sendMessage_of_ne {channel : Channel (Tapped κ)} (message : HostMessage)
    {socket : Handle} (elsewhere : ∀ connection, channel.engine.connection = some connection →
      socket ≠ connection.socket) :
    (channel.sendMessage message).2.kernel.written socket = channel.kernel.written socket := by
  unfold sendMessage sendPayload
  split
  · rfl
  · rename_i frame _
    cases slot : channel.engine.connection with
    | none => rfl
    | some connection =>
      have kept := sendAll_written_of_ne channel.kernel (elsewhere connection slot) frame
      dsimp only
      split <;> rename_i sent <;> rw [sent] at kept <;> exact kept

end Channel

/-- If the payload is answered, the reply fits and the kernel takes all of it. -/
def Handover.isUnhindered {κ : Type} [Kernel κ] (handover : Handover κ) : Bool :=
  match handover.reply?, handover.channel.engine.connection with
  | some reply, some connection =>
    reply.encode.length ≤ handover.channel.engine.config.maxMessageSize &&
      (sendAll handover.channel.kernel connection.socket (Frame.frame reply.encode)).1.isOk
  | _, _ => true

/-- The reply to a payload that came from the open connection is sent. -/
theorem Channel.sendMessage_of_unhindered {κ : Type} [Kernel κ] {channel : Channel κ}
    {connection : Connection} (current : channel.engine.connection = some connection) {id : Nat}
    {payload : Bytes} {reply : HostMessage}
    (answers : Handover.reply? ⟨channel, id, payload⟩ = some reply)
    (unhindered : Handover.isUnhindered ⟨channel, id, payload⟩ = true) :
    (channel.sendMessage reply).1 = .ok .sent := by
  unfold Handover.isUnhindered at unhindered
  rw [answers, current] at unhindered
  dsimp only at unhindered
  rw [Bool.and_eq_true, decide_eq_true_eq] at unhindered
  obtain ⟨fits, taken⟩ := unhindered
  unfold sendMessage
  rw [sendPayload_of_connected fits current]
  split <;> rename_i sent
  · rw [sent] at taken
    cases taken
  · rfl

/-- What a read of a connection leaves on its socket: the replies to the payloads that were handed
over, in order. Nothing is written to other sockets, and every payload was handed over while the
connection was the open one. -/
structure Channel.Answered {κ : Type} [Kernel κ] (before : Channel (Tapped κ)) (id : Nat)
    (socket : Handle) (handed : List (Handover (Tapped κ))) (after : Channel (Tapped κ)) :
    Prop where
  slot : ∀ handover ∈ handed, handover.channel.engine.connection = some ⟨id, socket⟩
  written : (∀ handover ∈ handed, handover.isUnhindered = true) →
    after.kernel.written socket =
      before.kernel.written socket ++ framed (handed.filterMap Handover.reply?)
  elsewhere : ∀ other, other ≠ socket →
    after.kernel.written other = before.kernel.written other

namespace Channel.Serves

variable {κ : Type} [Kernel κ]

/-- A payload that is not answered is no business of the kernel. -/
theorem kernel_handlePayload {channel : Channel κ} (serves : channel.Serves) {id : Nat}
    {payload : Bytes} (unanswered : Handover.reply? ⟨channel, id, payload⟩ = none) :
    (channel.handlePayload payload).2.kernel = channel.kernel := by
  unfold Handover.reply? at unanswered
  unfold Channel.handlePayload
  cases read : AgentMessage.decode payload with
  | error error =>
    dsimp only
    split <;> rfl
  | ok message =>
    cases there : channel.container with
    | none =>
      dsimp only
      rw [Channel.handle, there]
      rfl
    | some container =>
      rw [read, there] at unanswered
      exact (serves.handle_of_silent (AgentMessage.reply?_of_none unanswered)).2

variable {channel : Channel (Tapped κ)} {connection : Connection}

/-- A payload that is handed over has its reply written, if it is answered, and nothing else. -/
theorem written_handlePayload (serves : channel.Serves)
    (current : channel.engine.connection = some connection) {id : Nat} {payload : Bytes}
    (unhindered : Handover.isUnhindered ⟨channel, id, payload⟩ = true) :
    (channel.handlePayload payload).2.kernel.written connection.socket =
      channel.kernel.written connection.socket ++
        framed (Handover.reply? ⟨channel, id, payload⟩).toList := by
  cases answers : Handover.reply? ⟨channel, id, payload⟩ with
  | none =>
    rw [serves.kernel_handlePayload answers]
    exact (List.append_nil _).symm
  | some reply =>
    have posted := sendMessage_posted current reply
    rw [sendMessage_of_unhindered current answers unhindered] at posted
    rw [(handlePayload_of_reply answers).2.2]
    generalize (channel.sendMessage reply).2.kernel.written connection.socket = stream at posted ⊢
    cases posted with
    | sent _ => simp [framed]

theorem written_handlePayload_of_ne (serves : channel.Serves) {socket : Handle}
    (elsewhere : ∀ connection, channel.engine.connection = some connection →
      socket ≠ connection.socket) (id : Nat) (payload : Bytes) :
    (channel.handlePayload payload).2.kernel.written socket = channel.kernel.written socket := by
  cases answers : Handover.reply? ⟨channel, id, payload⟩ with
  | none => rw [serves.kernel_handlePayload answers]
  | some reply =>
    rw [(handlePayload_of_reply answers).2.2]
    exact written_sendMessage_of_ne reply elsewhere

theorem answered_traceReceive (serves : channel.Serves) (sound : channel.occupancy.Sound) {id : Nat}
    {reader : Reader} (found : channel.engine.reader? id = some reader) (outcome : ReadOutcome) :
    Answered channel id reader.socket (channel.traceReceive id outcome).1
      (channel.traceReceive id outcome).2 := by
  -- As long as all that was handed over came from the open connection, its socket has the replies.
  let motive (past : List (Handover (Tapped κ))) (after : Channel (Tapped κ)) : Prop :=
    after.Serves ∧
    (after.engine.connection = some ⟨id, reader.socket⟩ ∨ after.engine.connection = none) ∧
    ((∀ handover ∈ past, handover.channel.engine.connection = some ⟨id, reader.socket⟩ ∧
        handover.isUnhindered = true) →
      after.kernel.written reader.socket =
        channel.kernel.written reader.socket ++ framed (past.filterMap Handover.reply?)) ∧
    ∀ other, other ≠ reader.socket →
      after.kernel.written other = channel.kernel.written other
  have along : Along motive [] (channel.traceReceive id outcome).1
      (channel.traceReceive id outcome).2 := by
    refine traceReceive_along ?_ ?_ (fun _ _ _ _ holds => ⟨holds.1.of_eq rfl, holds.2⟩)
      (fun _ _ _ holds => ⟨holds.1.of_eq rfl, holds.2⟩) ?_ id outcome
    -- A payload that is handled adds its reply; nothing is handled that lets go of the connection.
    · rintro past after other payload ⟨serves, slot, written, elsewhere⟩
      have kept : (after.handlePayload payload).2.engine.connection = after.engine.connection :=
        congrArg Occupancy.connection (serves.occupancy_handlePayload payload)
      refine ⟨serves.handlePayload payload, by rwa [kept], fun all => ?_, fun socket differs => ?_⟩
      · obtain ⟨current, unhindered⟩ := all _ (List.mem_append_right _ List.mem_cons_self)
        have before := written fun handover mem => all handover (List.mem_append_left _ mem)
        have here := serves.written_handlePayload current unhindered
        rw [here, before, List.append_assoc, ← framed_append, List.filterMap_append,
          filterMap_reply?]
      -- A reply goes to the open connection, which is this one or none.
      · have apart : ∀ connection, after.engine.connection = some connection →
            socket ≠ connection.socket := by
          intro connection current
          rcases slot with here | empty
          · cases here.symm.trans current
            exact differs
          · cases empty.symm.trans current
        rw [serves.written_handlePayload_of_ne apart other payload, elsewhere socket differs]
    -- A connection that is closed writes nothing, and may be this one.
    · rintro past after other reason ⟨serves, slot, written, elsewhere⟩
      obtain ⟨kernel, container, left⟩ := after.close_cases other reason
      refine ⟨serves.of_eq container, ?_, fun all => ?_, fun socket differs => ?_⟩
      · rcases left with same | empty
        · rwa [same]
        · exact .inr empty
      · rw [kernel]
        exact written all
      · rw [kernel]
        exact elsewhere socket differs
    · refine ⟨serves, .inl ?_, fun _ => (List.append_nil _).symm, fun _ _ => rfl⟩
      obtain ⟨rfl, -, -⟩ := reader?_eq_some sound found
      exact (sound.of_mem (List.mem_of_find?_eq_some found)).2
  -- No payload is handed over once the connection is gone, which leaves the first side of `slot`.
  have handed (handover : Handover (Tapped κ))
      (mem : handover ∈ (channel.traceReceive id outcome).1) :
      handover.channel.engine.connection = some ⟨id, reader.socket⟩ := by
    obtain ⟨before, later, split⟩ := List.append_of_mem mem
    rcases (along.each before handover later split).2.1 with here | empty
    · exact here
    · have current := (traceReceive_current sound outcome handover mem).2
      rw [Engine.isCurrent, empty] at current
      cases current
  obtain ⟨-, -, written, elsewhere⟩ := along.last
  exact ⟨handed, fun all => written fun handover mem => ⟨handed handover mem, all handover mem⟩,
    elsewhere⟩

end Channel.Serves

/-! ## Runs -/

/-- The replies to what a connection handed over. -/
def History.repliesOn {κ : Type} (history : History κ) (id : Nat) : List HostMessage :=
  (history.handovers.filter (·.connection = id)).filterMap Handover.reply?

namespace Channel

variable {κ : Type} [Kernel κ]

/-- Whenever something is read in a run, the engine serves a container that leaves it alone. -/
def ServesAlong (channel : Channel κ) : List (Input κ) → Prop
  | [] => True
  | input :: inputs =>
    (match input with
      | .read _ _ => channel.Serves
      | _ => True) ∧ (channel.step input).ServesAlong inputs

/-- What the engine writes on the socket of a connection while it handles what is read there. -/
def dispatched (channel : Channel (Tapped κ)) (id : Nat) : Input (Tapped κ) → Bytes
  | .read other outcome =>
    match channel.engine.reader? other with
    | some reader =>
      if other = id then
        ((channel.receive other outcome).kernel.written reader.socket).drop
          (channel.kernel.written reader.socket).length
      else []
    | none => []
  | _ => []

/-- What it writes there in all reads of a run. -/
def dispatchedAlong (channel : Channel (Tapped κ)) (id : Nat) : List (Input (Tapped κ)) → Bytes
  | [] => []
  | input :: inputs => channel.dispatched id input ++ (channel.step input).dispatchedAlong id inputs

/-- One read, as a run counts it. -/
theorem dispatched_read {channel : Channel (Tapped κ)} (serves : channel.Serves)
    (sound : channel.occupancy.Sound) (read : Nat) (outcome : ReadOutcome)
    (unhindered : ∀ handover ∈ (channel.traceReceive read outcome).1, handover.isUnhindered = true)
    (id : Nat) :
    channel.dispatched id (.read read outcome) =
      framed (((channel.traceReceive read outcome).1.filter (·.connection = id)).filterMap
        Handover.reply?) := by
  dsimp only [dispatched]
  cases found : channel.engine.reader? read with
  | none =>
    rw [traceReceive_of_none found]
    rfl
  | some reader =>
    have answered := (serves.answered_traceReceive sound found outcome).written unhindered
    have current (handover : Handover (Tapped κ))
        (mem : handover ∈ (channel.traceReceive read outcome).1) : handover.connection = read :=
      (traceReceive_current sound outcome handover mem).1
    rw [traceReceive_snd] at answered
    dsimp only
    split
    · rename_i same
      subst same
      rw [answered, List.drop_left, List.filter_eq_self.2 fun handover mem =>
        decide_eq_true (current handover mem)]
    · rename_i differs
      have none : (channel.traceReceive read outcome).1.filter (·.connection = id) = [] := by
        refine List.filter_eq_nil_iff.2 fun handover mem same => differs ?_
        rw [← current handover mem]
        exact of_decide_eq_true same
      rw [none]
      rfl

end Channel

namespace History

variable {κ : Type} [Kernel κ]

theorem handovers_run (history : History κ) (inputs : List (Input κ)) :
    history.handovers <+: (history.run inputs).handovers := by
  refine run_induction (motive := fun after => history.handovers <+: after.handovers) ?_
    (List.prefix_refl _) inputs
  exact fun after input front => front.trans (List.prefix_append _ _)

/-- What a run writes while it handles what is read is the replies, connection by connection. -/
theorem dispatchedAlong_eq {history : History (Tapped κ)}
    (sound : history.channel.occupancy.Sound) {inputs : List (Input (Tapped κ))}
    (serves : history.channel.ServesAlong inputs)
    (unhindered : ∀ handover ∈ (history.run inputs).handovers, handover.isUnhindered = true)
    (id : Nat) : framed ((history.run inputs).repliesOn id) =
      framed (history.repliesOn id) ++ history.channel.dispatchedAlong id inputs := by
  induction inputs generalizing history with
  | nil => exact (List.append_nil _).symm
  | cons input inputs ih =>
    have next := ih (Channel.step_sound sound input) serves.2 unhindered
    have here : ∀ handover ∈ history.channel.handovers input, handover.isUnhindered = true := by
      intro handover mem
      refine unhindered handover (((history.step input).handovers_run inputs).mem ?_)
      exact List.mem_append_right _ mem
    have counted : framed ((history.step input).repliesOn id) =
        framed (history.repliesOn id) ++ history.channel.dispatched id input := by
      unfold repliesOn step
      rw [List.filter_append, List.filterMap_append, framed_append]
      congr 1
      cases input with
      | read other outcome =>
        exact (Channel.dispatched_read serves.1 sound other outcome here id).symm
      | _ => rfl
    rw [Channel.dispatchedAlong, ← List.append_assoc, ← counted]
    exact next

end History

/-- Requests are answered, in every run.
What the engine writes on a connection while it handles what is read there is, in order, one reply
for each payload that carries a request, with the name or the DNS server that the container has at
that moment, as long as the replies fit and their writes succeed. Every payload is handed over while
its connection is the open one, and nothing is written to another.
A reply that cannot be sent changes nothing either, and the frames behind its request are handled.
An agent that writes no more is written to as before. -/
theorem requests_answered {κ : Type} [Kernel κ] (kernel : Tapped κ) (config : Config)
    (container : Option Container) (inputs : List (Input (Tapped κ))) :
    let start := Channel.fresh kernel config container
    let history := (⟨start, [], []⟩ : History (Tapped κ)).run inputs
    (start.ServesAlong inputs →
      (∀ handover ∈ history.handovers, handover.isUnhindered = true) →
      ∀ id, start.dispatchedAlong id inputs = framed (history.repliesOn id)) ∧
    (history.channel.Serves → ∀ id reader outcome,
      history.channel.engine.reader? id = some reader →
      history.channel.Answered id reader.socket (history.channel.traceReceive id outcome).1
        (history.channel.receive id outcome)) ∧
    (∀ (handover : Handover (Tapped κ)) reply, handover.reply? = some reply ↔
      ∃ container fields, handover.channel.container = some container ∧
        AgentFields.SpelledBy fields handover.payload ∧
          (AgentMessage.nameRequest.CarriedBy fields ∧ reply = .containerName container.name ∨
            AgentMessage.dnsRequest.CarriedBy fields ∧
              reply = .containerDns container.dnsServer)) ∧
    (∀ (handover : Handover (Tapped κ)) reply, handover.reply? = some reply →
      let handled := handover.channel.handlePayload handover.payload
      handled.1 = .ok () ∧ handled.2.holdings = handover.channel.holdings ∧
        ∀ id buffer rest, handover.channel.engine.isCurrent id = true →
          Frame.split handover.channel.engine.config.maxMessageSize buffer =
            .complete handover.payload rest →
          handover.channel.handleFrames id buffer = handled.2.handleFrames id rest) ∧
    ∀ (tapped : Tapped Network) (agent writer : Handle) (buffer : Bytes), writer ≠ agent →
      let before := sendAll tapped writer buffer
      let after := sendAll { tapped with kernel := tapped.kernel.halfClose agent } writer buffer
      after.1 = before.1 ∧ ∀ handle,
        (after.2.kernel.stream? handle).map Stream.intake =
          (before.2.kernel.stream? handle).map Stream.intake := by
  intro start history
  have sound : start.occupancy.Sound := (History.Ledger.fresh kernel config container).sound
  refine ⟨fun serves unhindered id => ?_, fun serves id reader outcome found => ?_,
    fun _ _ => Handover.reply?_eq_some_iff, fun handover reply answers => ?_, ?_⟩
  · have begun : (⟨start, [], []⟩ : History (Tapped κ)).channel.occupancy.Sound := sound
    exact (History.dispatchedAlong_eq begun serves unhindered id).symm
  · have runs : history.channel = start.run inputs := History.channel_run _ inputs
    have answered := serves.answered_traceReceive
      (by rw [runs]; exact Channel.run_sound sound inputs) found outcome
    rwa [Channel.traceReceive_snd] at answered
  · obtain ⟨taken, held, -⟩ := Channel.handlePayload_of_reply answers
    refine ⟨taken, held, fun id buffer rest current split => ?_⟩
    have still := (congrArg (·.engine.isCurrent id) held).trans current
    rw [Channel.handleFrames_of_complete id split]
    generalize handover.channel.handlePayload handover.payload = handled at taken still ⊢
    obtain ⟨result, after⟩ := handled
    cases taken
    exact if_pos still
  · intro tapped agent writer buffer other before after
    obtain ⟨same, alike⟩ := Network.sendAll_alike (tapped.kernel.alike_halfClose other) buffer
    obtain ⟨answerBefore, kernelBefore⟩ := sendAll_tapped tapped writer buffer
    obtain ⟨answerAfter, kernelAfter⟩ := sendAll_tapped
      { tapped with kernel := tapped.kernel.halfClose agent } writer buffer
    rw [← kernelBefore, ← kernelAfter] at alike
    exact ⟨answerAfter.trans (same.trans answerBefore.symm), alike.intake⟩

/-- Two connections, the second in place of the first, ask in different order, and the container
changes in between. -/
theorem replies_on_two_connections :
    let stream (messages : List AgentMessage) := messages.flatMap (Frame.frame ·.encode)
    let start := Channel.fresh (⟨⟨[]⟩, []⟩ : Tapped Script) {}
      (some { Container.recording with name := "a0" })
    let inputs : List (Input (Tapped Script)) :=
      [.accept 7, .read 1 (.data (stream [.nameRequest, .suspendCompleted, .dnsRequest])),
        .container (some { Container.recording with name := "b", dnsServer := some "10.0.2.3" }),
        .accept 9, .read 2 (.data (stream [.dnsRequest, .nameRequest]))]
    start.ServesAlong inputs ∧
      start.dispatchedAlong 1 inputs = framed [.containerName "a0", .containerDns none] ∧
      start.dispatchedAlong 2 inputs =
        framed [.containerDns (some "10.0.2.3"), .containerName "b"] := by
  have answered {inputs : List (Input (Tapped Script))} := requests_answered
    (⟨⟨[]⟩, []⟩ : Tapped Script) {} (some { Container.recording with name := "a0" }) inputs
  refine ⟨?serves, (answered.1 ?serves ?fits 1).trans ?first, (answered.1 ?serves ?fits 2).trans
    ?second⟩
  case serves =>
    refine ⟨trivial, of_decide_eq_true ?_, trivial, trivial, of_decide_eq_true ?_, trivial⟩
    · cbv
    · cbv
  case fits =>
    refine List.all_eq_true.1 ?_
    cbv
  case first => cbv
  case second => cbv

end ServiceChannel
