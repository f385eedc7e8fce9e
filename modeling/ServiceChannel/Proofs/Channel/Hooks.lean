import ServiceChannel.Proofs.Channel.Replies
import ServiceChannel.Proofs.Channel.Stops

/-!
# Stop hooks

A message that stops a recording container (`handle_shutdown`) runs its stop hook, in the middle of
a read of `connection_task`. The hook may call anything on the engine, lets go of the connection or
not, and may do something else at the next stop.

- `Channel.occupancy_runHook_of_letsGo`, `Handover.LetsGo`: the stops that let go of the connection.
- `Channel.arm`, `Channel.traceHooked`: reading with a hook that is another one at every stop.
- `Channel.traceHooked_stopHook`: with the container's own hook this is reading.
- `Channel.traceHooked_cases`: what such a read comes to.
-/

namespace ServiceChannel

namespace Channel

variable {κ : Type}

/-! ## Being given up -/

theorem engine_watch (channel : Channel κ) (name : String) (reaction : Reaction) :
    (channel.watch name reaction).2.engine = channel.engine := by
  unfold watch
  obtain ⟨error, refused⟩ | ⟨container, -, registered⟩ :=
    channel.register_cases (.watcher name reaction)
  · rw [refused]
  · rw [registered]

theorem engine_unwatch (channel : Channel κ) (name : String) :
    (channel.unwatch name).engine = channel.engine := by
  unfold unwatch
  split <;> rfl

theorem engine_hear (channel : Channel κ) (connectivity : Connectivity) (name : String)
    (reaction : Reaction) :
    (channel.hear connectivity name reaction).engine = channel.engine := by
  unfold hear
  dsimp only
  split
  · exact engine_unwatch _ _
  · rfl

variable [Kernel κ]

theorem released_notifyEngine (channel : Channel κ) (connectivity : Connectivity) :
    (channel.notifyEngine connectivity).engine.released = channel.engine.released :=
  congrArg Bond.released (channel.bond_notifyEngine connectivity)

/-- Telling the observers of a connectivity gives up no engine, whatever the watchers do. -/
theorem released_setConnectivityWithin (depth : Nat) (channel : Channel κ)
    (connectivity : Connectivity) :
    (channel.setConnectivityWithin depth connectivity).engine.released =
      channel.engine.released :=
  setConnectivityWithin_induction
    (motive := fun after => after.engine.released = channel.engine.released)
    (fun after connectivity kept =>
      (congrArg (·.engine.released) (after.holdings_storeConnectivity connectivity)).trans kept)
    (fun after connectivity kept => (after.released_notifyEngine connectivity).trans kept)
    (fun after connectivity name reaction kept =>
      (congrArg Engine.released (after.engine_hear connectivity name reaction)).trans kept)
    (fun after name reaction kept =>
      (congrArg Engine.released (after.engine_watch name reaction)).trans kept) depth rfl
    connectivity

/-- Only giving it up gives up an engine. -/
theorem released_call (channel : Channel κ) {call : EngineCall} (keeps : call ≠ .release) :
    (channel.call call).2.engine.released = channel.engine.released := by
  have held {after : Channel κ} (same : after.holdings = channel.holdings) :
      after.engine.released = channel.engine.released :=
    congrArg (·.engine.released) same
  have phased {call : EngineCall} (phase : call.isPhase = true) :
      (channel.call call).2.engine.released = channel.engine.released := by
    obtain ⟨result, -, phased⟩ := channel.call_phased phase
    change (channel.call call).2.holdings.engine.released = channel.holdings.engine.released
    generalize (channel.call call).2.holdings = after at phased
    cases phased <;> rfl
  cases call with
  | create => exact phased rfl
  | bind => exact phased rfl
  | listen => exact phased rfl
  | cleanup =>
    have bond : channel.cleanup.bond = channel.bond.loosen := by
      rw [cleanup, bond_unsubscribe, bond_closeRendezvous, bond_releaseConnection]
    exact congrArg Bond.released bond
  | release => exact absurd rfl keeps
  | command command => exact held (channel.holdings_sendCommand command)
  | sendName => exact held channel.holdings_sendName
  | sendDns => exact held channel.holdings_sendDns
  | sendConnectivity connectivity =>
    dsimp only [Channel.call]
    exact congrArg Bond.released (channel.bond_sendConnectivity connectivity)
  | sendRecord record => exact held (channel.holdings_sendRecord record)
  | notifyStorage remaining =>
    dsimp only [Channel.call]
    exact held (channel.holdings_notifyStorage remaining)
  | reconcile =>
    dsimp only [Channel.call]
    unfold reconcile
    split
    · rfl
    · exact congrArg Bond.released (channel.bond_bridge _)
  | setConnectivity connectivity => exact channel.released_setConnectivityWithin _ connectivity

/-! ## Hooks that let go -/

/-- A hook that lets go of the connection leaves none, whatever else it does before or after that,
unless the engine was given up and the hook does nothing. -/
theorem occupancy_runHook_of_letsGo {channel : Channel κ} {calls : List EngineCall}
    (active : channel.engine.released = false)
    (letsGo : .cleanup ∈ calls ∨ .release ∈ calls) :
    (channel.runHook calls).occupancy = channel.occupancy.vacate .released := by
  induction calls generalizing channel with
  | nil => simp at letsGo
  | cons call calls ih =>
    have first : channel.hookCall call =
        (channel.call call).2.note (.stopHook call (channel.call call).1) :=
      if_neg (by simp [active])
    have called : (channel.hookCall call).occupancy =
        if call = .cleanup ∨ call = .release then channel.occupancy.vacate .released
        else channel.occupancy := first ▸ channel.occupancy_call call
    change ((channel.hookCall call).runHook calls).occupancy = _
    by_cases now : call = .cleanup ∨ call = .release
    · -- Whatever follows, no call opens a connection.
      rw [if_pos now] at called
      have handled := runHook_handled (channel.hookCall call) calls
      rw [called] at handled
      generalize ((channel.hookCall call).runHook calls).occupancy = after at handled
      cases handled with
      | kept => rfl
      | released => exact Occupancy.vacate_vacate _ _ _
    · rw [if_neg now] at called
      obtain ⟨noCleanup, noRelease⟩ := not_or.1 now
      have still : (channel.hookCall call).engine.released = false := by
        rw [first]
        exact (channel.released_call noRelease).trans active
      have later : EngineCall.cleanup ∈ calls ∨ .release ∈ calls := by
        obtain mem | mem := letsGo
        · exact .inl (List.mem_of_ne_of_mem (Ne.symm noCleanup) mem)
        · exact .inr (List.mem_of_ne_of_mem (Ne.symm noRelease) mem)
      rw [ih still later, called]

/-- The hook of an engine that was given up does nothing. -/
theorem runHook_of_released {channel : Channel κ} (released : channel.engine.released = true)
    (calls : List EngineCall) : channel.runHook calls = channel := by
  induction calls with
  | nil => rfl
  | cons call calls ih =>
    have first : channel.hookCall call = channel := if_pos released
    have step : channel.runHook (call :: calls) = (channel.hookCall call).runHook calls := rfl
    rw [step, first, ih]

/-! ## Stops that let go -/

theorem stopContainer_of_recording {channel : Channel κ} {container : Container}
    {recording : Recording} (there : channel.container = some container)
    (role : container.role = .recording recording) :
    channel.stopContainer = (channel.halt container recording).runHook recording.hook := by
  unfold stopContainer
  rw [there]
  dsimp only
  rw [role]
  rfl

theorem occupancy_stopContainer_of_letsGo {channel : Channel κ}
    (active : channel.engine.released = false) (letsGo : channel.LetsGo) :
    channel.stopContainer.occupancy = channel.occupancy.vacate .released := by
  obtain ⟨container, recording, there, role, lets⟩ := letsGo
  have halted : (channel.halt container recording).engine.released = false := active
  rw [stopContainer_of_recording there role, occupancy_runHook_of_letsGo halted lets]
  rfl

theorem occupancy_stopContainer_of_keeps {channel : Channel κ}
    (keeps : ¬ (channel.engine.released = false ∧ channel.LetsGo)) :
    channel.stopContainer.occupancy = channel.occupancy := by
  cases released : channel.engine.released with
  | false => exact occupancy_stopContainer fun letsGo => keeps ⟨released, letsGo⟩
  | true =>
    by_cases letsGo : channel.LetsGo
    · obtain ⟨container, recording, there, role, -⟩ := letsGo
      have halted : (channel.halt container recording).engine.released = true := released
      rw [stopContainer_of_recording there role, runHook_of_released halted]
      rfl
    · exact occupancy_stopContainer letsGo

end Channel

section Payloads

variable {κ : Type} {handover : Handover κ}

/-- The payload stops the container, whose hook then lets go of the connection. -/
def Handover.LetsGo (handover : Handover κ) : Prop :=
  handover.stops = true ∧ handover.channel.engine.released = false ∧ handover.channel.LetsGo

variable [Kernel κ]

/-- The channel when the payload has been handled, and whatever hook it started has returned. -/
def Handover.after (handover : Handover κ) : Channel κ :=
  (handover.channel.handlePayload handover.payload).2

theorem Handover.LetsGo.occupancy (letsGo : handover.LetsGo) :
    handover.after.occupancy = handover.channel.occupancy.vacate .released := by
  obtain ⟨stops, active, lets⟩ := letsGo
  let requested := (handover.channel.record (.received AgentMessage.shutdown.code)).record
    .shutdownRequested
  have stopped : requested.stopContainer.occupancy = requested.occupancy.vacate .released :=
    Channel.occupancy_stopContainer_of_letsGo active lets
  rw [after, Handover.handled_of_stops stops]
  simpa [requested] using stopped

/-- A payload that does not stop the container has no bearing on connections. -/
theorem Handover.occupancy_of_not_stops (idle : handover.stops = false) :
    handover.after.occupancy = handover.channel.occupancy := by
  obtain ⟨channel, id, payload⟩ := handover
  dsimp only [Handover.stops] at idle
  dsimp only [Handover.after]
  unfold Channel.handlePayload
  cases read : AgentMessage.decode payload with
  | error error =>
    dsimp only
    split <;> simp
  | ok message =>
    rw [read] at idle
    dsimp only
    by_cases shutdown : message = .shutdown
    · subst shutdown
      unfold Channel.handle
      cases there : channel.container with
      | none => simp
      | some container =>
        rw [there] at idle
        dsimp only [Channel.handleFor, Channel.handleShutdown]
        split
        · simp
        · simp
        · rename_i notShutting notStopped
          have stopping : container.state.isStopping = true := by
            simpa [AgentMessage.stops] using idle
          exact (Lifecycle.isStopping_iff.1 stopping).elim (absurd · notShutting)
            (absurd · notStopped)
    · exact Channel.occupancy_handle_of_keeps fun asked => absurd asked shutdown

/-- Neither has one whose stop does not let go. -/
theorem Handover.occupancy_of_keeps (keeps : ¬ handover.LetsGo) :
    handover.after.occupancy = handover.channel.occupancy := by
  cases stops : handover.stops with
  | false => exact Handover.occupancy_of_not_stops stops
  | true =>
    let requested := (handover.channel.record (.received AgentMessage.shutdown.code)).record
      .shutdownRequested
    have stopped : requested.stopContainer.occupancy = requested.occupancy :=
      Channel.occupancy_stopContainer_of_keeps fun lets => keeps ⟨stops, lets⟩
    rw [after, Handover.handled_of_stops stops]
    simpa [requested] using stopped

omit [Kernel κ] in
/-- A payload that is refused stops nothing. -/
theorem Handover.keeps_of_fault {error : MessageError}
    (faulty : AgentMessage.fault? handover.payload = some error) : ¬ handover.LetsGo := by
  rintro ⟨stops, -⟩
  obtain ⟨-, -, read, -⟩ := Handover.stops_iff.1 stops
  simp [AgentMessage.fault?, read] at faulty

end Payloads

/-! ## Hooks that change -/

/-- The container with another stop hook, if it runs one. -/
def Container.withHook (container : Container) (hook : List EngineCall) : Container :=
  match container.role with
  | .recording recording => { container with role := .recording { recording with hook := hook } }
  | .standalone _ => container

namespace Channel

variable {κ : Type}

/-- What the container's stop hook calls. -/
def stopHook (channel : Channel κ) : List EngineCall :=
  (channel.container.bind Container.hook?).getD []

/-- The channel with another hook for the next stop. What it calls may depend on everything. -/
def arm (hooks : Channel κ → List EngineCall) (channel : Channel κ) : Channel κ :=
  channel.onContainer (·.withHook (hooks channel))

@[simp] theorem occupancy_arm (hooks : Channel κ → List EngineCall) (channel : Channel κ) :
    (channel.arm hooks).occupancy = channel.occupancy := rfl

/-- The container has its own hook. -/
@[simp] theorem arm_stopHook (channel : Channel κ) : channel.arm stopHook = channel := by
  obtain ⟨kernel, engine, container⟩ := channel
  cases container with
  | none => rfl
  | some container => obtain ⟨_, _, _, _, _, _, _, _ | _⟩ := container <;> rfl

variable [Kernel κ]

/-! ## Reading with hooks that change -/

/-- Handles payloads that were cut off a buffer, as `tracePayloads` does, with another stop hook for
each of them. -/
def traceHooked (hooks : Channel κ → List EngineCall) (channel : Channel κ) (id : Nat)
    (tail : Frame.Tail) (rest : Bytes) :
    (payloads : List Bytes) → List (Handover κ) × Option Bytes × Channel κ
  | [] => channel.tracePayloads id tail rest []
  | payload :: payloads =>
    let armed := channel.arm hooks
    let handover := ⟨armed, id, payload⟩
    match armed.handlePayload payload with
    | (.error error, after) => ([handover], none, after.close id (.decodeFailed error))
    | (.ok (), after) =>
      if after.engine.isCurrent id then
        let (later, result) := after.traceHooked hooks id tail rest payloads
        (handover :: later, result)
      else ([handover], none, after)

theorem traceHooked_stopHook (channel : Channel κ) (id : Nat) (tail : Frame.Tail) (rest : Bytes)
    (payloads : List Bytes) :
    channel.traceHooked stopHook id tail rest payloads =
      channel.tracePayloads id tail rest payloads := by
  induction payloads generalizing channel with
  | nil => rfl
  | cons payload payloads ih =>
    simp only [traceHooked, arm_stopHook, ih]
    rfl

/-- A payload that is refused is the last one. -/
theorem traceHooked_of_fault (hooks : Channel κ → List EngineCall) (channel : Channel κ) (id : Nat)
    (tail : Frame.Tail) (rest : Bytes) {payload : Bytes} (payloads : List Bytes)
    {error : MessageError} (faulty : AgentMessage.fault? payload = some error) :
    channel.traceHooked hooks id tail rest (payload :: payloads) =
      ([⟨channel.arm hooks, id, payload⟩], none,
        (channel.arm hooks).close id (.decodeFailed error)) := by
  have refused := (channel.arm hooks).handlePayload_of_fault faulty
  simp only [traceHooked, refused]

/-- Any other is the last one if its connection is not the open one any more. -/
theorem traceHooked_of_sound (hooks : Channel κ → List EngineCall) (channel : Channel κ) (id : Nat)
    (tail : Frame.Tail) (rest : Bytes) {payload : Bytes} (payloads : List Bytes)
    (sound : AgentMessage.fault? payload = none) {handover : Handover κ}
    (handed : handover = ⟨channel.arm hooks, id, payload⟩) :
    channel.traceHooked hooks id tail rest (payload :: payloads) =
      if handover.after.engine.isCurrent id then
        (handover :: (handover.after.traceHooked hooks id tail rest payloads).1,
          (handover.after.traceHooked hooks id tail rest payloads).2)
      else ([handover], none, handover.after) := by
  subst handed
  have taken := (channel.arm hooks).handlePayload_of_sound sound
  rw [traceHooked, taken]
  rfl

/-- One read of bytes by a reader at work, as `traceReceive` takes it, with another stop hook for
each payload. -/
def readHooked (hooks : Channel κ → List EngineCall) (channel : Channel κ) (reader : Reader)
    (bytes : Bytes) : List (Handover κ) × Channel κ :=
  let emptied := channel.onEngine (·.setBuffered reader.connection [])
  let cut := Frame.cut channel.engine.config.maxMessageSize (reader.buffered ++ bytes)
  match emptied.traceHooked hooks reader.connection cut.tail cut.rest cut.payloads with
  | (handed, none, after) => (handed, after)
  | (handed, some rest, after) => (handed, after.onEngine (·.setBuffered reader.connection rest))

/-- With the container's own hook it is the read that the channel takes. -/
theorem readHooked_stopHook {channel : Channel κ} {id : Nat} {reader : Reader}
    (found : channel.engine.reader? id = some reader) (bytes : Bytes) :
    channel.readHooked stopHook reader bytes = channel.traceReceive id (.data bytes) := by
  unfold readHooked traceReceive traceFrames
  rw [found]
  simp only [traceHooked_stopHook]
  rfl

end Channel

/-! ## What such a read comes to -/

section Reads

variable {κ : Type} [Kernel κ]

/-- Payloads of a connection are handed over one after the other: each finds what the one before it
has left, its hook included, and another hook. -/
inductive Dispatched (hooks : Channel κ → List EngineCall) (id : Nat) :
    Channel κ → List (Handover κ) → Channel κ → Prop where
  | nil (channel : Channel κ) : Dispatched hooks id channel [] channel
  | cons {channel last : Channel κ} {handover : Handover κ} {later : List (Handover κ)}
    (armed : handover.channel = channel.arm hooks) (own : handover.connection = id)
    (rest : Dispatched hooks id handover.after later last) :
    Dispatched hooks id channel (handover :: later) last

theorem Dispatched.own {hooks : Channel κ → List EngineCall} {id : Nat} {channel last : Channel κ}
    {handed : List (Handover κ)} (dispatched : Dispatched hooks id channel handed last) :
    ∀ handover ∈ handed, handover.connection = id := by
  induction dispatched with
  | nil => simp
  | cons _ own _ ih => exact List.forall_mem_cons.2 ⟨own, ih⟩

theorem Dispatched.last_of_concat {hooks : Channel κ → List EngineCall} {id : Nat}
    {channel last : Channel κ} {front : List (Handover κ)} {handover : Handover κ}
    (dispatched : Dispatched hooks id channel (front ++ [handover]) last) :
    last = handover.after := by
  induction front generalizing channel with
  | nil =>
    cases dispatched with
    | cons _ _ rest =>
      cases rest
      rfl
  | cons first front ih =>
    cases dispatched with
    | cons _ _ rest => exact ih rest

/-- The last payload that was handed over had the engine let go of the connection, and no other. -/
structure CutShort (before : Occupancy) (said : Understanding) (handed : List (Handover κ))
    (last : Channel κ) : Prop where
  released : ∃ front handover, handed = front ++ [handover] ∧ handover.LetsGo ∧
    ∀ other ∈ front, ¬ other.LetsGo
  order : handed.map (·.payload) <+: said.payloads
  vacated : last.occupancy = before.vacate .released

/-- All that was said was handed over, and nothing of it had the engine let go. -/
structure HeardOut (before : Occupancy) (said : Understanding) (handed : List (Handover κ))
    (last : Channel κ) : Prop where
  keeps : ∀ handover ∈ handed, ¬ handover.LetsGo
  all : handed.map (·.payload) = said.payloads
  kept : last.occupancy = before

namespace Channel

/-- Payloads are handled up to the first whose hook lets go of the connection, which is the end, or
else up to the first that ends the connection, or to the last. -/
theorem traceHooked_cases (hooks : Channel κ → List EngineCall) {channel : Channel κ} {id : Nat}
    (current : channel.occupancy.isCurrent id = true) (tail : Frame.Tail) (rest : Bytes)
    (payloads : List Bytes) :
    let said := Understanding.ofPayloads (tail.fault? channel.engine.config.maxMessageSize) rest
      payloads
    let traced := channel.traceHooked hooks id tail rest payloads
    ∃ last, Dispatched hooks id channel traced.1 last ∧
      (CutShort channel.occupancy said traced.1 last ∧ traced.2 = (none, last) ∨
        HeardOut channel.occupancy said traced.1 last ∧
          traced.2 = match said.fault with
            | none => (some said.rest, last)
            | some error => (none, last.close id (.decodeFailed error))) := by
  -- Along the payloads; the channel is another one for the rest, since a hook may have changed it.
  induction payloads generalizing channel with
  | nil =>
    -- Nothing is handed over, and what is left of the buffer decides alone.
    have heard (said : Understanding) (nothing : said.payloads = []) :
        HeardOut channel.occupancy said [] channel :=
      ⟨by simp, nothing.symm, rfl⟩
    cases tail with
    | incomplete =>
      dsimp only [traceHooked, tracePayloads, Understanding.ofPayloads, Frame.Tail.fault?]
      exact ⟨channel, .nil channel, .inr ⟨heard _ rfl, rfl⟩⟩
    | oversized size =>
      dsimp only [traceHooked, tracePayloads, Understanding.ofPayloads, Frame.Tail.fault?]
      exact ⟨channel, .nil channel, .inr ⟨heard _ rfl, rfl⟩⟩
  | cons payload payloads ih =>
    generalize handed : (⟨channel.arm hooks, id, payload⟩ : Handover κ) = handover
    have armed : handover.channel = channel.arm hooks := handed ▸ rfl
    have own : handover.connection = id := handed ▸ rfl
    have same : handover.payload = payload := handed ▸ rfl
    have before : handover.channel.occupancy = channel.occupancy := armed ▸ occupancy_arm _ _
    cases judged : AgentMessage.fault? payload with
    -- A payload that is no message runs no hook: it is handed over, and ends the connection.
    | some error =>
      have refused : handover.after = channel.arm hooks := by
        rw [Handover.after, armed, same, handlePayload_of_fault _ judged]
      have keeps : ¬ handover.LetsGo := Handover.keeps_of_fault (same ▸ judged)
      have only : HeardOut channel.occupancy ⟨[payload], some error, rest⟩ [handover]
          (channel.arm hooks) :=
        ⟨List.forall_mem_singleton.2 keeps, congrArg ([·]) same, rfl⟩
      simp only [traceHooked_of_fault hooks channel id tail rest payloads judged,
        Understanding.ofPayloads, judged, handed]
      exact ⟨channel.arm hooks, .cons armed own (refused ▸ .nil _), .inr ⟨only, rfl⟩⟩
    | none =>
      simp only [traceHooked_of_sound hooks channel id tail rest payloads judged handed.symm,
        Understanding.ofPayloads, judged]
      by_cases letsGo : handover.LetsGo
      -- The hook let go: whatever took the slot since, it is not this connection, and reading ends.
      · have vacated : handover.after.occupancy = channel.occupancy.vacate .released :=
          before ▸ letsGo.occupancy
        have gone : ¬ handover.after.engine.isCurrent id = true := by
          change ¬ handover.after.occupancy.isCurrent id = true
          simp [vacated]
        rw [if_neg gone]
        refine ⟨handover.after, .cons armed own (.nil _), .inl ⟨⟨?_, ?_, vacated⟩, rfl⟩⟩
        · exact ⟨[], handover, rfl, letsGo, by simp⟩
        · exact List.cons_prefix_cons.2 ⟨same, List.nil_prefix⟩
      -- Else the connection is still the open one, and the rest is read as from the beginning.
      · have kept : handover.after.occupancy = channel.occupancy :=
          (Handover.occupancy_of_keeps letsGo).trans before
        have still : handover.after.engine.isCurrent id = true := by
          change handover.after.occupancy.isCurrent id = true
          rw [kept]
          exact current
        have limit : handover.after.engine.config = channel.engine.config :=
          congrArg Occupancy.config kept
        have later := @ih handover.after still
        rw [limit, kept] at later
        rw [if_pos still]
        obtain ⟨last, dispatched, ⟨short, result⟩ | ⟨heard, result⟩⟩ := later
        · obtain ⟨⟨front, lets, split, did, others⟩, order, vacated⟩ := short
          refine ⟨last, .cons armed own dispatched, .inl ⟨⟨?_, ?_, vacated⟩, result⟩⟩
          · exact ⟨handover :: front, lets, congrArg (handover :: ·) split, did,
              List.forall_mem_cons.2 ⟨letsGo, others⟩⟩
          · exact List.cons_prefix_cons.2 ⟨same, order⟩
        · refine ⟨last, .cons armed own dispatched, .inr ⟨⟨?_, ?_, heard.kept⟩, result⟩⟩
          · exact List.forall_mem_cons.2 ⟨letsGo, heard.keeps⟩
          · exact congrArg₂ List.cons same heard.all

/-- The same of one read: what was handled last is what stays, unless there is something left to
close or to keep in the buffer. -/
theorem readHooked_cases (hooks : Channel κ → List EngineCall) {channel : Channel κ}
    (sound : channel.occupancy.Sound) {id : Nat} {reader : Reader}
    (found : channel.engine.reader? id = some reader) (bytes : Bytes) :
    let said := understand channel.engine.config.maxMessageSize (reader.buffered ++ bytes)
    let read := channel.readHooked hooks reader bytes
    ∃ last, Dispatched hooks id (channel.onEngine (·.setBuffered id [])) read.1 last ∧
      (CutShort channel.occupancy said read.1 last ∧ read.2 = last ∨
        HeardOut (channel.occupancy.buffer id []) said read.1 last ∧
          read.2 = match said.fault with
            | none => last.onEngine (·.setBuffered id said.rest)
            | some error => last.close id (.decodeFailed error)) := by
  obtain ⟨rfl, -, current⟩ := reader?_eq_some sound found
  have still : (channel.onEngine (·.setBuffered reader.connection [])).occupancy.isCurrent
      reader.connection = true := current
  have limit : (channel.onEngine
      (·.setBuffered reader.connection [])).engine.config.maxMessageSize =
        channel.engine.config.maxMessageSize := rfl
  dsimp only [readHooked, understand]
  generalize Frame.cut channel.engine.config.maxMessageSize (reader.buffered ++ bytes) = cut
  obtain ⟨last, dispatched, outcome⟩ :=
    traceHooked_cases hooks still cut.tail cut.rest cut.payloads
  rw [limit, occupancy_setBuffered] at outcome
  generalize (channel.onEngine (·.setBuffered reader.connection [])).traceHooked hooks
    reader.connection cut.tail cut.rest cut.payloads = traced at dispatched outcome ⊢
  generalize Understanding.ofPayloads _ cut.rest cut.payloads = said at outcome ⊢
  obtain ⟨handed, left, after⟩ := traced
  dsimp only at dispatched outcome
  obtain ⟨short, result⟩ | ⟨heard, result⟩ := outcome
  · obtain ⟨rfl, rfl⟩ := Prod.mk.inj result
    have vacated := short.vacated.trans (Occupancy.vacate_buffer current [] .released)
    exact ⟨after, dispatched, .inl ⟨⟨short.released, short.order, vacated⟩, rfl⟩⟩
  · obtain ⟨payloads, fault, rest⟩ := said
    cases fault with
    | none =>
      obtain ⟨rfl, rfl⟩ := Prod.mk.inj result
      exact ⟨after, dispatched, .inr ⟨heard, rfl⟩⟩
    | some error =>
      obtain ⟨rfl, rfl⟩ := Prod.mk.inj result
      exact ⟨last, dispatched, .inr ⟨heard, rfl⟩⟩

end Channel

end Reads

end ServiceChannel
