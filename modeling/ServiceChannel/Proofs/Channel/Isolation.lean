import ServiceChannel.Proofs.Channel.Inbound

/-!
# Connections apart from one another

What comes on one connection never bears on another, however the first one ended.

- `History.Apart`: what each connection handed over is what its own bytes say.
- `Channel.OnlySlot`: nothing but the slot of the connection changes when one ends.
- `Channel.Installs`: what a connection that arrives finds.
- `connections_apart`: what holds in every run.
-/

namespace ServiceChannel

/-! ## What is handed over -/

/-- What a read comes to when the buffer and the bytes together say this: all of it is handed over
and the rest is left, or the connection ends; only one that is let go of may leave some out. -/
inductive Occupancy.Says (before : Occupancy) (reader : Reader) (said : Understanding) :
    List Bytes → Occupancy → Prop where
  | keeps : said.fault = none →
      Says before reader said said.payloads (before.buffer reader.connection said.rest)
  | ends (reason : Teardown) :
      Says before reader said said.payloads (before.vacate (.closed reason))
  | released {handed : List Bytes} : handed <+: said.payloads →
      Says before reader said handed (before.vacate .released)

theorem Occupancy.Says.front {before after : Occupancy} {reader : Reader} {said : Understanding}
    {handed : List Bytes} (told : before.Says reader said handed after) :
    handed <+: said.payloads := by
  cases told with
  | keeps _ | ends _ => exact List.prefix_refl _
  | released front => exact front

namespace Channel

variable {κ : Type} [Kernel κ]

/-- Whatever a handler does, what is handed over is the front of what the buffer says. -/
theorem tracePayloads_of_front (channel : Channel κ) (id : Nat) (tail : Frame.Tail)
    (fault : Option MessageError) (rest left : Bytes) (payloads : List Bytes) :
    (channel.tracePayloads id tail rest payloads).1.map (·.payload) <+:
      (Understanding.ofPayloads fault left payloads).payloads := by
  induction payloads generalizing channel with
  | nil => cases tail <;> exact List.prefix_refl _
  | cons payload payloads ih =>
    cases judged : AgentMessage.fault? payload with
    | some error =>
      have refused := channel.handlePayload_of_fault judged
      simp only [tracePayloads, Understanding.ofPayloads, judged, refused]
      exact List.prefix_refl _
    | none =>
      have taken := channel.handlePayload_of_sound judged
      rw [tracePayloads, taken]
      simp only [Understanding.ofPayloads, judged]
      split
      · exact List.cons_prefix_cons.2 ⟨rfl, ih _⟩
      · exact List.cons_prefix_cons.2 ⟨rfl, List.nil_prefix⟩

theorem traceFrames_of_front (channel : Channel κ) (id : Nat) (buffer : Bytes) :
    (channel.traceFrames id buffer).1.map (·.payload) <+:
      (understand channel.engine.config.maxMessageSize buffer).payloads :=
  tracePayloads_of_front channel id _ _ _ _ _

theorem traceReceive_of_front {channel : Channel κ} {id : Nat} {reader : Reader}
    (found : channel.engine.reader? id = some reader) (bytes : Bytes) :
    (channel.traceReceive id (.data bytes)).1.map (·.payload) <+:
      (understand channel.engine.config.maxMessageSize (reader.buffered ++ bytes)).payloads := by
  have handed := (channel.onEngine (·.setBuffered reader.connection [])).traceFrames_of_front
    reader.connection (reader.buffered ++ bytes)
  unfold traceReceive
  rw [found]
  dsimp only
  split <;> rename_i traced <;> rw [traced] at handed <;> exact handed

theorem traceReceive_says {channel : Channel κ} (sound : channel.occupancy.Sound) {id : Nat}
    {reader : Reader} (found : channel.engine.reader? id = some reader) (outcome : ReadOutcome) :
    channel.occupancy.Says reader
      (understand channel.engine.config.maxMessageSize (reader.buffered ++ outcome.bytes))
      ((channel.traceReceive id outcome).1.map (·.payload))
      (channel.traceReceive id outcome).2.occupancy := by
  obtain ⟨rfl, single, current⟩ := reader?_eq_some sound found
  have unfinished := understand_of_incomplete
    (sound.unfinished reader (List.mem_of_find?_eq_some found))
  -- Reads that bring no bytes say what the buffer says, and it has part of a frame at most.
  have nothing {handed : List Bytes} {after : Occupancy}
      (quiet : channel.occupancy.Says reader ⟨[], none, reader.buffered⟩ handed after) :
      channel.occupancy.Says reader
        (understand channel.engine.config.maxMessageSize (reader.buffered ++ [])) handed after := by
    rw [List.append_nil]
    exact unfinished ▸ quiet
  have stays : channel.occupancy.Says reader ⟨[], none, reader.buffered⟩ [] channel.occupancy := by
    have kept : channel.occupancy.Says reader ⟨[], none, reader.buffered⟩ []
      (channel.occupancy.buffer reader.connection reader.buffered) := .keeps rfl
    rwa [Occupancy.buffer_self single] at kept
  cases outcome with
  | data bytes =>
    have front := traceReceive_of_front found bytes
    have understood := traceReceive_understood sound found bytes
    dsimp only [ReadOutcome.bytes] at front understood ⊢
    generalize understand channel.engine.config.maxMessageSize (reader.buffered ++ bytes) = said
      at front understood ⊢
    rcases understood with released | ⟨all, kept, result⟩
    · rw [released]
      exact .released front
    · rw [all, result]
      cases fault : said.fault with
      | none =>
        dsimp only
        rw [occupancy_setBuffered, kept, Occupancy.buffer_buffer]
        exact .keeps fault
      | some error =>
        dsimp only
        rw [occupancy_close_of_current (by rw [kept]; exact current), kept,
          Occupancy.vacate_buffer current]
        exact .ends _
  | endOfStream =>
    rw [traceReceive_endOfStream sound found]
    dsimp only
    rw [occupancy_conclude current _ rfl]
    exact nothing (.ends _)
  | failed error =>
    rw [traceReceive_failed found]
    dsimp only
    rw [occupancy_conclude current _ rfl]
    exact nothing (.ends _)
  | wouldBlock =>
    rw [traceReceive_wouldBlock]
    exact nothing stays
  | interrupted =>
    rw [traceReceive_interrupted]
    exact nothing stays

end Channel

namespace History

variable {κ : Type}

/-- The messages that a connection dispatched. -/
def messages (history : History κ) (id : Nat) : List AgentMessage :=
  (history.payloads id).filterMap fun payload => (AgentMessage.decode payload).toOption

/-- The invariant of connections: what each handed over is the front of what its own bytes say, and
all of it unless the engine let go of the connection. The open one waits for the rest of what its
own bytes say. -/
structure Apart (max : Nat) (history : History κ) : Prop where
  ledger : history.Ledger
  limit : history.channel.engine.config.maxMessageSize = max
  front : ∀ id, history.payloads id <+: (understand max (history.bytes id)).payloads
  whole : ∀ id, .released ∉ history.channel.occupancy.departuresOf id →
    history.payloads id = (understand max (history.bytes id)).payloads
  waiting : ∀ reader ∈ history.channel.occupancy.readers,
    understand max (history.bytes reader.connection) =
      ⟨history.payloads reader.connection, none, reader.buffered⟩

variable [Kernel κ] {max : Nat} {history : History κ}

/-- A cause that is there stays. -/
theorem Apart.not_released (apart : history.Apart max) {input : Input κ} {id : Nat}
    (kept : .released ∉ (history.step input).channel.occupancy.departuresOf id) :
    .released ∉ history.channel.occupancy.departuresOf id := by
  have before := Channel.departuresOf_run apart.ledger.sound [input] id
  exact fun released => kept (before.mem released)

theorem Apart.limit_step (apart : history.Apart max) (input : Input κ) :
    (history.step input).channel.engine.config.maxMessageSize = max :=
  (congrArg Config.maxMessageSize (Channel.config_step apart.ledger.sound input)).trans apart.limit

theorem Apart.of_quiet (apart : history.Apart max) {input : Input κ}
    (reads : history.channel.reads input = []) (handovers : history.channel.handovers input = [])
    (moves : history.channel.occupancy.Moves input (history.channel.step input).occupancy) :
    (history.step input).Apart max := by
  have ledger := apart.ledger
  have bytes (id : Nat) : (history.step input).bytes id = history.bytes id := by
    simp [bytes_step, reads]
  have payloads (id : Nat) : (history.step input).payloads id = history.payloads id := by
    simp [payloads_step, handovers]
  constructor
  · exact ledger.of_quiet reads handovers moves
  · exact apart.limit_step input
  · intro id
    rw [bytes, payloads]
    exact apart.front id
  · intro id kept
    rw [bytes, payloads]
    exact apart.whole id (apart.not_released kept)
  · intro reader mem
    rw [bytes, payloads]
    change reader ∈ (history.channel.step input).occupancy.readers at mem
    generalize (history.channel.step input).occupancy = after at moves mem
    cases moves with
    | stays _ => exact apart.waiting reader mem
    | enters socket _ =>
      rw [ledger.sound.tidy.readers_enter, List.mem_singleton] at mem
      subst mem
      obtain ⟨nothing, none⟩ := ledger.future _ (Nat.lt_succ_self _)
      rw [nothing, none, understand_of_incomplete rfl]
    | leaves connection cause _ _ _ =>
      rw [ledger.sound.tidy.readers_vacate] at mem
      cases mem

/-- A read goes on with what the connection's own bytes said before, and touches no other. -/
theorem Apart.of_read (apart : history.Apart max) {id : Nat} {outcome : ReadOutcome}
    {reader : Reader} (found : history.channel.engine.reader? id = some reader) :
    (history.step (.read id outcome)).Apart max := by
  have ledger := apart.ledger
  obtain ⟨rfl, single, current⟩ := Channel.reader?_eq_some ledger.sound found
  -- The bytes from before come to no end, so those that are new go on where they stopped.
  have before := apart.waiting reader (List.mem_of_find?_eq_some found)
  have pending : (understand max (history.bytes reader.connection)).fault = none :=
    congrArg Understanding.fault before
  have longer := understand_append outcome.bytes pending
  have bytes := bytes_read found outcome
  have payloads := payloads_read ledger.sound reader.connection outcome
  have told := Channel.traceReceive_says ledger.sound found outcome
  rw [apart.limit, Channel.traceReceive_snd] at told
  change history.channel.occupancy.Says reader _ ((history.channel.handovers
    (.read reader.connection outcome)).map (·.payload)) (history.step
      (.read reader.connection outcome)).channel.occupancy at told
  rw [before] at longer
  dsimp only at longer
  generalize understand max (reader.buffered ++ outcome.bytes) = said at told longer
  constructor
  · exact ledger.step _
  · exact apart.limit_step _
  · intro other
    rw [bytes, payloads]
    split
    · rename_i same
      subst same
      rw [longer]
      exact (List.prefix_append_right_inj _).2 told.front
    · simpa using apart.front other
  · intro other kept
    have whole := apart.whole other (apart.not_released kept)
    rw [bytes, payloads]
    split
    · rename_i same
      subst same
      rw [longer]
      generalize (history.step (.read reader.connection outcome)).channel.occupancy = after
        at told kept
      generalize (history.channel.handovers (.read reader.connection outcome)).map _ = handed
        at told ⊢
      cases told with
      | keeps _ | ends _ => rfl
      -- Only a connection that was released may leave payloads unheard.
      | released _ =>
        rw [Occupancy.departuresOf_vacate current] at kept
        simp at kept
    · simpa using whole
  · intro other mem
    generalize (history.step (.read reader.connection outcome)).channel.occupancy = after
      at told mem
    generalize handed : (history.channel.handovers (.read reader.connection outcome)).map _ = new
      at told payloads
    cases told with
    | keeps sound =>
      have alone : history.channel.occupancy.readers = [reader] := single
      rw [Occupancy.buffer, alone, leaveBuffered_singleton, List.mem_singleton] at mem
      subst mem
      rw [bytes, payloads, if_pos rfl, if_pos rfl, longer, sound]
    | ends _ | released _ =>
      rw [ledger.sound.tidy.readers_vacate] at mem
      cases mem

theorem Apart.step (apart : history.Apart max) (input : Input κ) :
    (history.step input).Apart max := by
  rcases Channel.step_cases apart.ledger.sound input with
    ⟨id, outcome, reader, rfl, found, -⟩ | ⟨reads, handovers, moves⟩
  · exact apart.of_read found
  · exact apart.of_quiet reads handovers moves

omit [Kernel κ] in
theorem Apart.fresh (kernel : κ) (config : Config) (container : Option Container) :
    (⟨Channel.fresh kernel config container, [], []⟩ : History κ).Apart config.maxMessageSize where
  ledger := Ledger.fresh kernel config container
  limit := rfl
  front id := List.nil_prefix
  whole id _ := congrArg Understanding.payloads (understand_of_incomplete rfl).symm
  waiting reader mem := by cases mem

theorem Apart.run (apart : history.Apart max) (inputs : List (Input κ)) :
    (history.run inputs).Apart max :=
  run_induction (fun _ input apart => apart.step input) apart inputs

end History

/-- The messages in a stream that is read in one piece. -/
def saidIn (max : Nat) (stream : Bytes) : List AgentMessage :=
  (understand max stream).payloads.filterMap fun payload => (AgentMessage.decode payload).toOption

namespace History

variable {κ : Type} {max : Nat} {history : History κ}

theorem Apart.messages (apart : history.Apart max) (id : Nat) :
    history.messages id <+: saidIn max (history.bytes id) ∧
      (.released ∉ history.channel.occupancy.departuresOf id →
        history.messages id = saidIn max (history.bytes id)) := by
  constructor
  · exact (apart.front id).filterMap _
  · intro kept
    rw [History.messages, apart.whole id kept]
    rfl

end History

/-! ## Ends -/

namespace Channel

variable {κ : Type}

/-- Nothing but the slot differs: it is empty and no reader is at work. What was let go of waits to
be closed, and the log says so. -/
structure OnlySlot (before after : Channel κ) : Prop where
  engine : after.engine = { before.engine with connection := none, readers := [] }
  container : after.container = before.container
  kernel : after.kernel = before.kernel
  watchers : after.watchers = before.watchers
  notes : after.notes = before.notes

theorem close_onlySlot {channel : Channel κ} (sound : channel.occupancy.Sound) {id : Nat}
    (current : channel.occupancy.isCurrent id = true) (reason : Teardown) :
    channel.OnlySlot (channel.close id reason) := by
  obtain ⟨socket, slot⟩ := Occupancy.isCurrent_iff.1 current
  obtain ⟨buffered, readers⟩ := sound.readers_of_some slot
  have slot : channel.engine.connection = some ⟨id, socket⟩ := slot
  have readers : channel.engine.readers = [⟨id, socket, buffered⟩] := readers
  unfold close
  rw [slot]
  dsimp only
  rw [if_pos rfl]
  constructor <;> simp [disconnect, retire, onEngine, record, readers]

theorem OnlySlot.of_record {before after : Channel κ} {event : Event}
    (only : (before.record event).OnlySlot after) : before.OnlySlot after :=
  ⟨only.engine, only.container, only.kernel, only.watchers, only.notes⟩

/-- What waited in the buffer is lost with the reader. -/
theorem OnlySlot.emptied {before after : Channel κ} (only : before.OnlySlot after) (id : Nat)
    (bytes : Bytes) : (before.onEngine (·.setBuffered id bytes)).OnlySlot after :=
  ⟨only.engine, only.container, only.kernel, only.watchers, only.notes⟩

theorem conclude_onlySlot {channel : Channel κ} (sound : channel.occupancy.Sound) {id : Nat}
    (current : channel.occupancy.isCurrent id = true) (left : Bytes) {ending : Ending}
    {reason : Teardown} (ends : ending.teardown? = some reason) :
    channel.OnlySlot (channel.conclude id left ending) := by
  cases ending with
  | pending => cases ends
  | failed error => exact close_onlySlot sound current (.exception error)
  | endOfStream =>
    unfold conclude
    dsimp only
    split
    · exact close_onlySlot sound current _
    · have reported : (channel.record (.discardingPartial id left.length)).occupancy =
          channel.occupancy := by simp
      exact (close_onlySlot (reported ▸ sound) (reported ▸ current) _).of_record

variable [Kernel κ]

/-- A read that ends its connection handles what it completes, and then changes nothing but the
slot. -/
theorem receive_onlySlot {channel : Channel κ} (sound : channel.occupancy.Sound) {id : Nat}
    (current : channel.occupancy.isCurrent id = true) {outcome : ReadOutcome} {reason : Teardown}
    (ended : (channel.receive id outcome).occupancy.departuresOf id = [.closed reason]) :
    ((channel.onEngine (·.setBuffered id [])).handleAll
      ((channel.traceReceive id outcome).1.map (·.payload))).OnlySlot
        (channel.receive id outcome) := by
  obtain ⟨socket, slot⟩ := Occupancy.isCurrent_iff.1 current
  obtain ⟨buffered, readers⟩ := sound.readers_of_some slot
  have found : channel.engine.reader? id = some ⟨id, socket, buffered⟩ := reader?_of_single readers
  have stays : channel.occupancy.departuresOf id = [] := sound.departuresOf_of_current current
  rw [← traceReceive_snd] at ended ⊢
  cases outcome with
  | data bytes =>
    have understood := traceReceive_understood sound found bytes
    dsimp only at understood
    generalize channel.traceReceive id (.data bytes) = traced at understood ended ⊢
    generalize understand channel.engine.config.maxMessageSize (buffered ++ bytes) = said
      at understood
    rcases understood with released | ⟨all, kept, result⟩
    -- Released by a hook, or with nothing wrong: the departure is not the one that was supposed.
    · rw [released, Occupancy.departuresOf_vacate current, stays] at ended
      cases ended
    · rw [all]
      cases fault : said.fault with
      | none =>
        rw [fault] at result
        dsimp only at result
        rw [result, occupancy_setBuffered, kept, Occupancy.buffer_buffer] at ended
        cases stays.symm.trans ended
      | some error =>
        rw [fault] at result
        dsimp only at result
        rw [result]
        refine close_onlySlot ?_ ?_ _
        · rw [kept]
          exact sound.buffer id rfl
        · rw [kept]
          exact current
  | endOfStream =>
    have ends : Ending.endOfStream.teardown? = some .peerClosed := rfl
    rw [traceReceive_endOfStream sound found]
    exact (conclude_onlySlot sound current buffered ends).emptied id []
  | failed error =>
    have ends : (Ending.failed error).teardown? = some (.exception error) := rfl
    rw [traceReceive_failed found]
    exact (conclude_onlySlot sound current buffered ends).emptied id []
  | wouldBlock =>
    rw [traceReceive_wouldBlock] at ended
    cases stays.symm.trans ended
  | interrupted =>
    rw [traceReceive_interrupted] at ended
    cases stays.symm.trans ended

/-! ## Arrivals -/

/-- Nothing differs but that the next connection is the open one, with a reader that has read
nothing. -/
structure Installs (before : Channel κ) (socket : Handle) (after : Channel κ) : Prop where
  engine : after.engine = { before.engine with
    connection := some ⟨before.engine.accepted + 1, socket⟩
    readers := [⟨before.engine.accepted + 1, socket, []⟩]
    accepted := before.engine.accepted + 1 }
  container : after.container = before.container
  kernel : after.kernel = before.kernel
  watchers : after.watchers = before.watchers
  notes : after.notes = before.notes

omit [Kernel κ] in
theorem accept_installs {channel : Channel κ} (sound : channel.occupancy.Sound) (socket : Handle) :
    channel.Installs socket (channel.accept socket) := by
  unfold accept
  cases slot : channel.engine.connection with
  | none =>
    have readers : channel.engine.readers = [] := sound.readers_of_none slot
    constructor <;> simp [onEngine, record, readers]
  | some previous =>
    obtain ⟨buffered, readers⟩ := sound.readers_of_some slot
    have readers : channel.engine.readers = [⟨previous.id, previous.socket, buffered⟩] := readers
    constructor <;> simp [onEngine, record, disconnect, retire, readers]

end Channel

/-- Connections apart from one another, in every run.
What a connection dispatched is what its own bytes say when they are read in one piece, unless the
engine let go of it; then it is the front of that.
A connection that ends by its own reading changes nothing but the slot, after the payloads of the
last read were handled.
A connection that arrives takes the slot, with a reader of its own that has read nothing, and what
is read on it is handled from the first byte on. -/
theorem connections_apart {κ : Type} [Kernel κ] (kernel : κ) (config : Config)
    (container : Option Container) (inputs : List (Input κ)) :
    let history := (⟨Channel.fresh kernel config container, [], []⟩ : History κ).run inputs
    let channel := history.channel
    (∀ id, history.messages id <+: saidIn config.maxMessageSize (history.bytes id) ∧
      (.released ∉ channel.occupancy.departuresOf id →
        history.messages id = saidIn config.maxMessageSize (history.bytes id))) ∧
    (∀ id outcome reason, channel.engine.isCurrent id = true →
      (channel.receive id outcome).occupancy.departuresOf id = [.closed reason] →
      ((channel.onEngine (·.setBuffered id [])).handleAll
        ((channel.traceReceive id outcome).1.map (·.payload))).OnlySlot
          (channel.receive id outcome)) ∧
    ∀ socket,
      let id := channel.engine.accepted + 1
      let arrived := history.step (.accept socket)
      channel.Installs socket arrived.channel ∧ arrived.bytes id = [] ∧ arrived.messages id = [] ∧
        ∀ bytes,
          let next := arrived.step (.read id (.data bytes))
          next.bytes id = bytes ∧ (.released ∉ next.channel.occupancy.departuresOf id →
            next.messages id = saidIn config.maxMessageSize bytes) := by
  intro history channel
  have apart : history.Apart config.maxMessageSize :=
    (History.Apart.fresh kernel config container).run inputs
  have sound := apart.ledger.sound
  refine ⟨apart.messages, fun id outcome reason current ended =>
    Channel.receive_onlySlot sound current ended, ?_⟩
  intro socket id arrived
  have later : arrived.Apart config.maxMessageSize := apart.step (.accept socket)
  have installs : channel.Installs socket arrived.channel := Channel.accept_installs sound socket
  obtain ⟨nothing, none⟩ := apart.ledger.future id (Nat.lt_succ_self _)
  have unread : arrived.bytes id = [] := by
    rw [History.bytes_step, nothing]
    rfl
  have unsaid : arrived.payloads id = [] := by
    rw [History.payloads_step, none]
    rfl
  refine ⟨installs, unread, by rw [History.messages, unsaid]; rfl, ?_⟩
  intro bytes next
  have found : arrived.channel.engine.reader? id = some ⟨id, socket, []⟩ :=
    Channel.reader?_of_single (congrArg Engine.readers installs.engine)
  have read : next.bytes id = bytes := by
    rw [History.bytes_read found, unread, if_pos rfl]
    rfl
  refine ⟨read, fun kept => ?_⟩
  have said := ((later.step (.read id (.data bytes))).messages id).2 kept
  rwa [read] at said

end ServiceChannel
