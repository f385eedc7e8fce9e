import ServiceChannel.Proofs.Channel.Pieces
import ServiceChannel.Proofs.Kernel.Script

/-!
# The inbound stream

What a connection hears does not depend on how its bytes arrive.

- `Hearing`: what reads come to, without a channel.
- `History.Hears`: a run follows what the reads come to.
- `inbound_stream_in_one_piece`: a connection from its arrival on, against its stream in one piece.
-/

namespace ServiceChannel

/-! ## Hearing -/

/-- What the reads on a connection come to: the payloads, what waits in the buffer, and why they
ended the connection, if they did. -/
structure Hearing where
  payloads : List Bytes := []
  buffered : Bytes := []
  ended : Option Teardown := none

namespace Hearing

/-- What one more read comes to. -/
def step (max : Nat) (hearing : Hearing) (outcome : ReadOutcome) : Hearing :=
  match hearing.ended, outcome with
  | none, .data bytes =>
    let said := understand max (hearing.buffered ++ bytes)
    ⟨hearing.payloads ++ said.payloads, said.rest, said.fault.map .decodeFailed⟩
  | none, .endOfStream => { hearing with ended := some .peerClosed }
  | none, .failed error => { hearing with ended := some (.exception error) }
  | _, _ => hearing

theorem step_wouldBlock (max : Nat) (hearing : Hearing) :
    hearing.step max .wouldBlock = hearing := by
  unfold step
  split <;> simp_all

theorem step_interrupted (max : Nat) (hearing : Hearing) :
    hearing.step max .interrupted = hearing := by
  unfold step
  split <;> simp_all

/-- A connection that ended hears nothing more. -/
theorem foldl_step_of_ended {hearing : Hearing} {reason : Teardown}
    (ended : hearing.ended = some reason) (max : Nat) (outcomes : List ReadOutcome) :
    outcomes.foldl (step max) hearing = hearing := by
  induction outcomes with
  | nil => rfl
  | cons outcome outcomes ih =>
    have deaf : hearing.step max outcome = hearing := by
      unfold step
      rw [ended]
    rw [List.foldl_cons, deaf, ih]

/-- The connection is as the reads on it left it: open, with the rest in its buffer, or gone, once
and by its own reading. -/
def At (hearing : Hearing) (id : Nat) (socket : Handle) (occupancy : Occupancy) : Prop :=
  match hearing.ended with
  | none => occupancy.readers = [⟨id, socket, hearing.buffered⟩] ∧ occupancy.departuresOf id = []
  | some reason => occupancy.departuresOf id = [.closed reason]

theorem at_of_pending {hearing : Hearing} (pending : hearing.ended = none) {id : Nat}
    {socket : Handle} {occupancy : Occupancy} : hearing.At id socket occupancy ↔
      occupancy.readers = [⟨id, socket, hearing.buffered⟩] ∧ occupancy.departuresOf id = [] := by
  rw [At, pending]

theorem at_of_ended {hearing : Hearing} {reason : Teardown} (ended : hearing.ended = some reason)
    {id : Nat} {socket : Handle} {occupancy : Occupancy} :
    hearing.At id socket occupancy ↔ occupancy.departuresOf id = [.closed reason] := by
  rw [At, ended]

/-- The reads so far come to what the stream says. -/
structure Follows (max : Nat) (hearing : Hearing) (stream : Bytes) : Prop where
  payloads : hearing.payloads = (understand max stream).payloads
  ended : hearing.ended = (understand max stream).fault.map .decodeFailed
  buffered : (understand max stream).fault = none → hearing.buffered = (understand max stream).rest

variable {max : Nat} {hearing : Hearing} {stream : Bytes}

theorem Follows.data (follows : hearing.Follows max stream) (bytes : Bytes) :
    (hearing.step max (.data bytes)).Follows max (stream ++ bytes) := by
  obtain ⟨payloads, ended, buffered⟩ := follows
  cases fault : (understand max stream).fault with
  | none =>
    have longer := understand_append bytes fault
    rw [fault, Option.map_none] at ended
    have buffered := buffered fault
    unfold step
    rw [ended, buffered, payloads]
    dsimp only at longer ⊢
    constructor
    · rw [longer]
    · rw [longer]
    · intro _
      rw [longer]
  | some error =>
    obtain ⟨same, still⟩ := understand_append_of_fault bytes fault
    rw [fault, Option.map_some] at ended
    have deaf : hearing.step max (.data bytes) = hearing := by
      unfold step
      rw [ended]
    rw [deaf]
    constructor
    · rw [same, payloads]
    · rw [still, ended]
      rfl
    · intro none
      rw [still] at none
      cases none

theorem Follows.piece (follows : hearing.Follows max stream) {outcome : ReadOutcome}
    (piece : outcome.isPiece = true) :
    (hearing.step max outcome).Follows max (stream ++ outcome.bytes) := by
  cases outcome with
  | data bytes => exact follows.data bytes
  | wouldBlock => simpa [step_wouldBlock, ReadOutcome.bytes] using follows
  | interrupted => simpa [step_interrupted, ReadOutcome.bytes] using follows
  | endOfStream => cases piece
  | failed error => cases piece

theorem Follows.pieces (follows : hearing.Follows max stream) {pieces : List ReadOutcome}
    (brought : ∀ outcome ∈ pieces, outcome.isPiece = true) :
    (pieces.foldl (step max) hearing).Follows max
      (stream ++ pieces.flatMap ReadOutcome.bytes) := by
  induction pieces generalizing hearing stream with
  | nil => simpa using follows
  | cons outcome pieces ih =>
    have first := follows.piece (brought outcome (by simp))
    have later := ih first fun other mem => brought other (by simp [mem])
    rwa [List.append_assoc] at later

theorem Follows.start (max : Nat) : ({} : Hearing).Follows max [] := by
  have nothing : understand max [] = ⟨[], none, []⟩ := understand_of_incomplete rfl
  constructor
  · rw [nothing]
  · rw [nothing]
    rfl
  · intro _
    rw [nothing]

end Hearing

/-! ## Runs -/

/-- What the input brings on a connection. -/
def Input.outcomeOn {κ : Type} (id : Nat) : Input κ → Option ReadOutcome
  | .read reader outcome => if reader = id then some outcome else none
  | _ => none

theorem Input.outcomeOn_eq_some {κ : Type} {id : Nat} {input : Input κ} {outcome : ReadOutcome} :
    input.outcomeOn id = some outcome ↔ input = .read id outcome := by
  unfold outcomeOn
  cases input with
  | read reader brought =>
    by_cases same : reader = id
    · simp [same]
    · simp [same]
  | _ => simp

namespace Channel

variable {κ : Type} [Kernel κ]

/-- What a step adds to the departures of a connection is a cause that its input explains, and what
was there stays. -/
theorem departuresOf_step {channel : Channel κ} (sound : channel.occupancy.Sound)
    (input : Input κ) (id : Nat) :
    (channel.step input).occupancy.departuresOf id = channel.occupancy.departuresOf id ∨
      channel.occupancy.isCurrent id = true ∧ ∃ cause, input.Ends id cause ∧
        (channel.step input).occupancy.departuresOf id =
          channel.occupancy.departuresOf id ++ [cause] := by
  obtain ⟨left, departures, explained⟩ := departures_step sound input
  unfold Occupancy.departuresOf
  rw [departures, List.filter_append, List.map_append]
  cases left with
  | none => exact .inl (by simp)
  | some departure =>
    obtain ⟨other, cause⟩ := departure
    obtain ⟨current, ends, -⟩ := explained
    by_cases same : other = id
    · subst same
      exact .inr ⟨current, cause, ends, by simp⟩
    · exact .inl (by simp [same])

theorem departuresOf_run {channel : Channel κ} (sound : channel.occupancy.Sound)
    (inputs : List (Input κ)) (id : Nat) :
    channel.occupancy.departuresOf id <+: (channel.run inputs).occupancy.departuresOf id := by
  induction inputs generalizing channel with
  | nil => exact List.prefix_refl _
  | cons input inputs ih =>
    refine List.IsPrefix.trans ?_ (ih (step_sound sound input))
    rcases departuresOf_step sound input id with same | ⟨-, cause, -, more⟩
    · exact ⟨[], (List.append_nil _).trans same.symm⟩
    · exact ⟨[cause], more.symm⟩

/-- What one read hands over, and how it leaves the open connection, as long as no handler takes it
out. -/
theorem traceReceive_heard {channel : Channel κ} (sound : channel.occupancy.Sound) {id : Nat}
    {socket : Handle} {hearing : Hearing} (pending : hearing.ended = none)
    (slot : hearing.At id socket channel.occupancy) (outcome : ReadOutcome)
    (undisturbed : ∀ cause ∈ (channel.traceReceive id outcome).2.occupancy.departuresOf id,
      ∃ reason, cause = .closed reason) :
    let heard := hearing.step channel.engine.config.maxMessageSize outcome
    let traced := channel.traceReceive id outcome
    heard.payloads = hearing.payloads ++ traced.1.map (·.payload) ∧
      heard.At id socket traced.2.occupancy := by
  obtain ⟨single, departures⟩ := (Hearing.at_of_pending pending).1 slot
  have found : channel.engine.reader? id = some ⟨id, socket, hearing.buffered⟩ :=
    reader?_of_single single
  obtain ⟨-, -, current⟩ := reader?_eq_some sound found
  have left (cause : Cause) : (channel.occupancy.vacate cause).departuresOf id = [cause] :=
    (Occupancy.departuresOf_vacate current _).trans (by rw [departures]; rfl)
  dsimp only
  unfold Hearing.step
  rw [pending]
  cases outcome with
  | data bytes =>
    dsimp only
    have understood := traceReceive_understood sound found bytes
    dsimp only at understood
    generalize channel.traceReceive id (.data bytes) = traced at understood undisturbed ⊢
    generalize understand channel.engine.config.maxMessageSize (hearing.buffered ++ bytes) = said
      at understood ⊢
    obtain ⟨handed, after⟩ := traced
    obtain ⟨payloads, fault, rest⟩ := said
    rcases understood with released | ⟨all, kept, result⟩
    -- A hook that lets go of the connection is a disturbance.
    · obtain ⟨reason, closed⟩ := undisturbed .released
        (by rw [released, left]; exact List.mem_singleton.2 rfl)
      cases closed
    · cases fault with
      | none =>
        dsimp only at all result ⊢
        refine ⟨by rw [all], (Hearing.at_of_pending rfl).2 ?_⟩
        rw [result, occupancy_setBuffered, kept, Occupancy.buffer_buffer]
        refine ⟨?_, departures⟩
        rw [Occupancy.buffer, single]
        exact leaveBuffered_singleton ⟨id, socket, hearing.buffered⟩ rest
      | some error =>
        dsimp only at all result ⊢
        refine ⟨by rw [all], (Hearing.at_of_ended rfl).2 ?_⟩
        rw [result, occupancy_close_of_current (by rw [kept]; exact current), kept,
          Occupancy.vacate_buffer current, left]
  | endOfStream =>
    rw [traceReceive_endOfStream sound found]
    refine ⟨(List.append_nil _).symm, (Hearing.at_of_ended rfl).2 ?_⟩
    rw [occupancy_conclude current _ rfl, left]
  | failed error =>
    rw [traceReceive_failed found]
    refine ⟨(List.append_nil _).symm, (Hearing.at_of_ended rfl).2 ?_⟩
    rw [occupancy_conclude current _ rfl, left]
  | wouldBlock =>
    rw [traceReceive_wouldBlock]
    exact ⟨(List.append_nil _).symm, slot⟩
  | interrupted =>
    rw [traceReceive_interrupted]
    exact ⟨(List.append_nil _).symm, slot⟩

end Channel

namespace History

variable {κ : Type} [Kernel κ]

/-- What a connection handed over, and how it stands, is what the reads on it come to. -/
structure Hears (history : History κ) (id : Nat) (socket : Handle) (hearing : Hearing) : Prop where
  payloads : history.payloads id = hearing.payloads
  slot : hearing.At id socket history.channel.occupancy

variable {history : History κ} {id : Nat} {socket : Handle} {hearing : Hearing}

/-- A connection that left hears nothing more. -/
theorem Hears.step_of_ended (hears : history.Hears id socket hearing) (ledger : history.Ledger)
    {reason : Teardown} (ended : hearing.ended = some reason) (input : Input κ) :
    (history.step input).Hears id socket hearing := by
  have slot := (Hearing.at_of_ended ended).1 hears.slot
  have gone : history.channel.occupancy.isCurrent id = false :=
    ledger.sound.isCurrent_of_departuresOf (slot ▸ List.mem_singleton.2 rfl)
  constructor
  · rw [payloads_of_stale ledger.sound gone, hears.payloads]
  · refine (Hearing.at_of_ended ended).2 ?_
    rcases Channel.departuresOf_step ledger.sound input id with same | ⟨current, -⟩
    · exact same.trans slot
    · exact absurd (gone.symm.trans current) (by decide)

/-- The open connection hears nothing of what comes elsewhere, as long as that does not take it
out. -/
theorem Hears.step_of_other (hears : history.Hears id socket hearing) (ledger : history.Ledger)
    (pending : hearing.ended = none) {input : Input κ} (other : input.outcomeOn id = none)
    (undisturbed : ∀ cause ∈ (history.step input).channel.occupancy.departuresOf id,
      ∃ reason, cause = .closed reason) :
    (history.step input).Hears id socket hearing := by
  obtain ⟨single, departures⟩ := (Hearing.at_of_pending pending).1 hears.slot
  have found := Channel.reader?_of_single single
  obtain ⟨-, -, current⟩ := Channel.reader?_eq_some ledger.sound found
  have left (cause : Cause) : (history.channel.occupancy.vacate cause).departuresOf id = [cause] :=
    (Occupancy.departuresOf_vacate current _).trans (by rw [departures]; rfl)
  rcases Channel.step_cases ledger.sound input with
    ⟨reading, outcome, reader, rfl, read, -⟩ | ⟨-, none, moves⟩
  · obtain ⟨rfl, alone, -⟩ := Channel.reader?_eq_some ledger.sound read
    obtain rfl := List.singleton_inj.1 (alone.symm.trans single)
    simp [Input.outcomeOn] at other
  constructor
  · rw [payloads_step, none, hears.payloads]
    exact List.append_nil _
  refine (Hearing.at_of_pending pending).2 ?_
  change ∀ cause ∈ (history.channel.step input).occupancy.departuresOf id, _ at undisturbed
  change (history.channel.step input).occupancy.readers = _ ∧
    (history.channel.step input).occupancy.departuresOf id = _
  generalize (history.channel.step input).occupancy = after at moves undisturbed
  cases moves with
  | stays _ => exact ⟨single, departures⟩
  | enters socket same =>
    have replaced : (history.channel.occupancy.enter socket).departuresOf id = [.replaced] := by
      unfold Occupancy.departuresOf
      rw [Occupancy.departures_enter]
      exact left .replaced
    obtain ⟨reason, closed⟩ := undisturbed .replaced (replaced ▸ List.mem_singleton.2 rfl)
    cases closed
  | leaves connection cause _ known ends =>
    obtain ⟨reason, rfl⟩ := undisturbed cause (left cause ▸ List.mem_singleton.2 rfl)
    obtain ⟨_, slot⟩ := Occupancy.isCurrent_iff.1 current
    obtain rfl := Option.some.inj (slot.symm.trans known)
    cases input with
    | read reading outcome =>
      obtain ⟨rfl, -⟩ := ends
      simp [Input.outcomeOn] at other
    | _ => cases ends

/-- A connection hears what the reads on it bring, as long as nothing else takes it out. -/
theorem Hears.step (hears : history.Hears id socket hearing) (ledger : history.Ledger)
    (input : Input κ)
    (undisturbed : ∀ cause ∈ (history.step input).channel.occupancy.departuresOf id,
      ∃ reason, cause = .closed reason) :
    (history.step input).Hears id socket ((input.outcomeOn id).toList.foldl
      (Hearing.step history.channel.engine.config.maxMessageSize) hearing) := by
  cases ended : hearing.ended with
  | some reason =>
    rw [Hearing.foldl_step_of_ended ended]
    exact hears.step_of_ended ledger ended input
  | none =>
    cases brought : input.outcomeOn id with
    | none => exact hears.step_of_other ledger ended brought undisturbed
    | some outcome =>
      obtain rfl := Input.outcomeOn_eq_some.1 brought
      have traced : history.channel.step (.read id outcome) =
          (history.channel.traceReceive id outcome).2 := (Channel.traceReceive_snd _ _ _).symm
      change ∀ cause ∈ (history.channel.step (.read id outcome)).occupancy.departuresOf id, _
        at undisturbed
      rw [traced] at undisturbed
      obtain ⟨payloads, slot⟩ :=
        Channel.traceReceive_heard ledger.sound ended hears.slot outcome undisturbed
      constructor
      · rw [payloads_read ledger.sound, if_pos rfl, hears.payloads]
        exact payloads.symm
      · change Hearing.At _ id socket (history.channel.step (.read id outcome)).occupancy
        rw [traced]
        exact slot

/-- A run follows what the reads come to. -/
theorem Hears.run {max : Nat} (hears : history.Hears id socket hearing) (ledger : history.Ledger)
    (limit : history.channel.engine.config.maxMessageSize = max) (inputs : List (Input κ))
    (undisturbed : ∀ cause ∈ (history.run inputs).channel.occupancy.departuresOf id,
      ∃ reason, cause = .closed reason) :
    (history.run inputs).Hears id socket
      ((inputs.filterMap (Input.outcomeOn id)).foldl (Hearing.step max) hearing) := by
  induction inputs generalizing history hearing with
  | nil => exact hears
  | cons input inputs ih =>
    have later := Channel.departuresOf_run (ledger.step input).sound inputs id
    rw [← channel_run] at later
    have first := hears.step ledger input fun cause mem => undisturbed cause (later.mem mem)
    have config : (history.step input).channel.engine.config = history.channel.engine.config :=
      Channel.config_step ledger.sound input
    rw [limit] at first
    have rest := ih first (ledger.step input) (by rw [config, limit]) undisturbed
    rw [← List.foldl_append] at rest
    have whole : (input.outcomeOn id).toList ++ inputs.filterMap (Input.outcomeOn id) =
        (input :: inputs).filterMap (Input.outcomeOn id) := by
      cases brought : input.outcomeOn id <;> simp [brought]
    rwa [whole] at rest

end History

namespace Hearing

/-- Reads that bring a stream and its end come to what the stream says, and how it ends. -/
theorem of_stream (max : Nat) {pieces : List ReadOutcome}
    (brought : ∀ outcome ∈ pieces, outcome.isPiece = true) (ending : Ending) :
    let said := understand max (pieces.flatMap ReadOutcome.bytes)
    let heard := (pieces ++ ending.reads).foldl (step max) {}
    heard.payloads = said.payloads ∧
      heard.ended = (said.fault.map .decodeFailed).or ending.teardown? ∧
      (heard.ended = none → heard.buffered = said.rest) := by
  have follows := (Follows.start max).pieces brought
  rw [List.nil_append] at follows
  dsimp only
  rw [List.foldl_append]
  generalize pieces.foldl (step max) {} = hearing at follows ⊢
  obtain ⟨payloads, ended, buffered⟩ := follows
  cases fault : (understand max (pieces.flatMap ReadOutcome.bytes)).fault with
  | some error =>
    rw [fault] at ended
    rw [foldl_step_of_ended ended]
    refine ⟨payloads, ended, fun none => ?_⟩
    rw [ended] at none
    cases none
  | none =>
    rw [fault] at ended
    have buffered := buffered fault
    have pending : hearing.ended = none := ended
    cases ending with
    | pending => exact ⟨payloads, pending, fun _ => buffered⟩
    | endOfStream =>
      have ends : hearing.step max .endOfStream = { hearing with ended := some .peerClosed } := by
        unfold step
        rw [pending]
      simp [Ending.reads, Ending.teardown?, ends, payloads]
    | failed error =>
      have ends : hearing.step max (.failed error) =
          { hearing with ended := some (.exception error) } := by
        unfold step
        rw [pending]
      simp [Ending.reads, Ending.teardown?, ends, payloads]

end Hearing

namespace Channel

variable {κ : Type} [Kernel κ]

theorem run_ending_of_none {channel : Channel κ} {id : Nat}
    (gone : channel.engine.reader? id = none) (ending : Ending) :
    channel.run (ending.reads.map (.read id)) = channel := by
  cases ending with
  | pending => rfl
  | endOfStream => exact receive_of_none gone .endOfStream
  | failed error => exact receive_of_none gone (.failed error)

/-- The end of the stream finds in the buffer what the pieces left there. -/
theorem run_ending {channel : Channel κ} (sound : channel.occupancy.Sound) {reader : Reader}
    (single : channel.engine.readers = [reader]) (ending : Ending) :
    channel.run (ending.reads.map (.read reader.connection)) =
      channel.conclude reader.connection reader.buffered ending := by
  have found : channel.engine.reader? reader.connection = some reader := reader?_of_single single
  cases ending with
  | pending => exact (setBuffered_self single).symm
  | endOfStream =>
    refine (traceReceive_snd channel reader.connection .endOfStream).symm.trans ?_
    rw [traceReceive_endOfStream sound found]
  | failed error =>
    refine (traceReceive_snd channel reader.connection (.failed error)).symm.trans ?_
    rw [traceReceive_failed found]

omit [Kernel κ] in
/-- Handling payloads keeps the reader of a connection that stays open. -/
theorem readers_of_handled {channel after : Channel κ} {id : Nat} {socket : Handle}
    (single : channel.engine.readers = [⟨id, socket, []⟩])
    (kept : after.occupancy = channel.occupancy.buffer id []) (rest : Bytes) :
    (after.onEngine (·.setBuffered id rest)).engine.readers = [⟨id, socket, rest⟩] := by
  have readers : after.engine.readers = leaveBuffered id [] channel.engine.readers :=
    congrArg Occupancy.readers kept
  change leaveBuffered id rest after.engine.readers = _
  rw [readers, single, leaveBuffered_leaveBuffered]
  exact leaveBuffered_singleton ⟨id, socket, []⟩ rest

/-- Reading a stream and its end is handling it in one piece, unless a handler takes the connection
out. -/
theorem run_eq_parse {channel : Channel κ} (sound : channel.occupancy.Sound) {id : Nat}
    {socket : Handle} (single : channel.engine.readers = [⟨id, socket, []⟩])
    {pieces : List ReadOutcome} (brought : ∀ outcome ∈ pieces, outcome.isPiece = true)
    (ending : Ending)
    (undisturbed : ∀ cause ∈ (channel.run (pieces.map (.read id))).occupancy.departuresOf id,
      ∃ reason, cause = .closed reason) :
    channel.run ((pieces ++ ending.reads).map (.read id)) =
      channel.parse id (pieces.flatMap ReadOutcome.bytes) ending := by
  have found : channel.engine.reader? id = some ⟨id, socket, []⟩ := reader?_of_single single
  obtain ⟨-, -, current⟩ := reader?_eq_some sound found
  have understood := traceReceive_understood sound found (pieces.flatMap ReadOutcome.bytes)
  have emptied : channel.onEngine (·.setBuffered id []) = channel := setBuffered_self single
  have pieceRun : channel.run (pieces.map (.read id)) =
      (channel.traceReceive id (.data (pieces.flatMap ReadOutcome.bytes))).2 :=
    (run_pieces sound id brought).trans (traceReceive_snd channel id (.data _)).symm
  have nextSound := run_sound sound (pieces.map (.read id))
  have split : channel.run ((pieces ++ ending.reads).map (.read id)) =
      (channel.run (pieces.map (.read id))).run (ending.reads.map (.read id)) := by
    rw [List.map_append]
    exact List.foldl_append
  rw [split]
  rw [pieceRun] at undisturbed nextSound ⊢
  unfold parse
  dsimp only at understood ⊢
  rw [List.nil_append, emptied] at understood
  generalize channel.traceReceive id (.data (pieces.flatMap ReadOutcome.bytes)) = traced
    at understood undisturbed nextSound ⊢
  generalize understand channel.engine.config.maxMessageSize (pieces.flatMap ReadOutcome.bytes) =
    said at understood ⊢
  obtain ⟨payloads, fault, rest⟩ := said
  rcases understood with released | ⟨-, kept, result⟩
  · have left : Cause.released ∈ traced.2.occupancy.departuresOf id := by
      rw [released, Occupancy.departuresOf_vacate current]
      simp
    obtain ⟨reason, closed⟩ := undisturbed .released left
    cases closed
  have still : (channel.handleAll payloads).occupancy.isCurrent id = true := by
    rw [kept]
    exact current
  dsimp only at kept result ⊢
  cases fault with
  | some error =>
    -- Nothing is read after the fault.
    have gone : traced.2.engine.reader? id = none := by
      refine reader?_of_not_current nextSound ?_
      rw [result, occupancy_close_of_current still]
      exact Occupancy.isCurrent_vacate _ _ _
    exact (run_ending_of_none gone ending).trans result
  | none =>
    have waiting : traced.2.engine.readers = [⟨id, socket, rest⟩] := by
      rw [result]
      exact readers_of_handled single kept rest
    rw [run_ending nextSound waiting ending, result]
    exact conclude_setBuffered still rest rest ending

end Channel

namespace History

variable {κ : Type} [Kernel κ]

/-- A connection that was just accepted has heard nothing yet. -/
theorem hears_of_accept (kernel : κ) (config : Config) (container : Option Container)
    (earlier : List (Input κ)) (socket : Handle) :
    let history := (⟨Channel.fresh kernel config container, [], []⟩ : History κ).run
      (earlier ++ [.accept socket])
    history.channel.engine.config.maxMessageSize = config.maxMessageSize ∧
      history.Hears (earlier.countP Input.isAccept + 1) socket {} := by
  intro history
  have fresh := Ledger.fresh kernel config container
  let before := (⟨Channel.fresh kernel config container, [], []⟩ : History κ).run earlier
  have ledger : before.Ledger := fresh.run earlier
  have step : history = before.step (.accept socket) := run_append _ _ _
  have after : history.Ledger := step ▸ ledger.step (.accept socket)
  have accepted : before.channel.occupancy.accepted = earlier.countP Input.isAccept := by
    have counted := Channel.accepted_run fresh.sound earlier
    rw [← channel_run] at counted
    exact counted.trans (Nat.zero_add _)
  have entered : history.channel.occupancy = before.channel.occupancy.enter socket := by
    rw [step]
    exact Channel.occupancy_accept _ socket
  have config : history.channel.engine.config = config := by
    rw [channel_run]
    exact Channel.config_run fresh.sound _
  have readers : history.channel.occupancy.readers =
      [⟨earlier.countP Input.isAccept + 1, socket, []⟩] := by
    rw [entered, ← accepted]
    exact ledger.sound.tidy.readers_enter socket
  have current : history.channel.occupancy.isCurrent (earlier.countP Input.isAccept + 1) =
      true := by
    rw [entered, ← accepted]
    simp [Occupancy.enter, Occupancy.isCurrent]
  have stale : before.channel.occupancy.isCurrent (earlier.countP Input.isAccept + 1) =
      false := by
    by_cases known : before.channel.occupancy.isCurrent (earlier.countP Input.isAccept + 1) = true
    · have := ledger.sound.le_accepted known
      omega
    · simpa using known
  have stays := after.sound.departuresOf_of_current current
  refine ⟨by rw [config], ⟨?_, (Hearing.at_of_pending rfl).2 ⟨readers, stays⟩⟩⟩
  rw [step, payloads_of_stale ledger.sound stale]
  exact (ledger.future _ (by omega)).2

end History

/-- A connection from its arrival on, in any run that does not take it out but by its own reading.
The reads on it bring the pieces of a stream, and the end of the stream if it comes to one. Then the
connection hands over what the stream says when it is read in one piece; it leaves once for the
fault that the stream shows, or else for its end, and stays with what is left of the stream
otherwise. Reads that follow one another can be taken as one read of their bytes wherever they
stand, and when nothing else happens, the channel is as after handling the stream in one piece. -/
theorem inbound_stream_in_one_piece {κ : Type} [Kernel κ] (kernel : κ) (config : Config)
    (container : Option Container) (earlier inputs : List (Input κ)) (socket : Handle)
    (pieces : List ReadOutcome) (ending : Ending)
    (brought : ∀ outcome ∈ pieces, outcome.isPiece = true)
    (came : inputs.filterMap (Input.outcomeOn (earlier.countP Input.isAccept + 1)) =
      pieces ++ ending.reads)
    (undisturbed : ∀ cause ∈ ((Channel.fresh kernel config container).run
      (earlier ++ .accept socket :: inputs)).occupancy.departuresOf
        (earlier.countP Input.isAccept + 1), ∃ reason, cause = .closed reason) :
    let id := earlier.countP Input.isAccept + 1
    let start := (Channel.fresh kernel config container).run (earlier ++ [.accept socket])
    let history := (⟨Channel.fresh kernel config container, [], []⟩ : History κ).run
      (earlier ++ .accept socket :: inputs)
    let stream := pieces.flatMap ReadOutcome.bytes
    let said := understand config.maxMessageSize stream
    let ended := (said.fault.map .decodeFailed).or ending.teardown?
    history.payloads id = said.payloads ∧
    history.channel.occupancy.departuresOf id = ended.toList.map .closed ∧
    (ended = none → history.channel.engine.reader? id = some ⟨id, socket, said.rest⟩) ∧
    (∀ (before after : List (Input κ)) (reads : List ReadOutcome),
      inputs = before ++ reads.map (.read id) ++ after →
      (∀ outcome ∈ reads, outcome.isPiece = true) →
      history.channel = start.run
        (before ++ .read id (.data (reads.flatMap ReadOutcome.bytes)) :: after)) ∧
    (inputs = (pieces ++ ending.reads).map (.read id) →
      history.channel = start.parse id stream ending) := by
  intro id start history stream said ended
  let first := (⟨Channel.fresh kernel config container, [], []⟩ : History κ).run
    (earlier ++ [.accept socket])
  have begun := History.Ledger.fresh kernel config container
  have ledger : first.Ledger := begun.run _
  have channel : first.channel = start := History.channel_run _ _
  have sound : start.occupancy.Sound := channel ▸ ledger.sound
  have whole : history = first.run inputs := by
    simp only [history, first, ← History.run_append, List.append_assoc, List.singleton_append]
  have run : history.channel = start.run inputs := by
    rw [whole, History.channel_run, channel]
  have final : (Channel.fresh kernel config container).run (earlier ++ .accept socket :: inputs) =
      history.channel := (History.channel_run ⟨_, [], []⟩ _).symm
  obtain ⟨limit, hears⟩ := History.hears_of_accept kernel config container earlier socket
  rw [final] at undisturbed
  have heard := hears.run ledger limit inputs (whole ▸ undisturbed)
  rw [came, ← whole] at heard
  obtain ⟨payloads, ends, rest⟩ := Hearing.of_stream config.maxMessageSize brought ending
  refine ⟨heard.payloads.trans payloads, ?_, ?_, ?_, ?_⟩
  -- What was heard piece by piece and what the whole stream says end for the same reason.
  · refine Eq.trans ?_ (congrArg (fun reason => reason.toList.map Cause.closed) ends)
    generalize (pieces ++ ending.reads).foldl _ _ = hearing at heard
    cases known : hearing.ended with
    | none => exact ((Hearing.at_of_pending known).1 heard.slot).2
    | some reason => exact (Hearing.at_of_ended known).1 heard.slot
  · intro pending
    have pending := ends.trans pending
    obtain ⟨readers, -⟩ := (Hearing.at_of_pending pending).1 heard.slot
    rw [rest pending] at readers
    exact Channel.reader?_of_single readers
  · intro before after reads same piece
    have merged := Channel.run_pieces (Channel.run_sound sound before) id piece
    rw [run, same, Channel.run_append, Channel.run_append, Channel.run_append, merged]
    rfl
  -- Nothing else happens: then the run itself is the parse.
  · intro same
    obtain ⟨readers, -⟩ := (Hearing.at_of_pending rfl).1 hears.slot
    have single : start.engine.readers = [⟨id, socket, []⟩] := channel ▸ readers
    have split : start.run inputs =
        (start.run (pieces.map (.read id))).run (ending.reads.map (.read id)) := by
      rw [same, List.map_append, Channel.run_append]
    have early := Channel.departuresOf_run (Channel.run_sound sound (pieces.map (.read id)))
      (ending.reads.map (.read id)) id
    rw [← split, ← run] at early
    rw [run, same]
    exact Channel.run_eq_parse sound single brought ending
      fun cause mem => undisturbed cause (early.mem mem)

/-- A message cut in its header and at its last byte, and half a header at the end of the stream. -/
theorem inbound_stream_of_three_reads :
    let reads : List ReadOutcome :=
      [.data [0, 0], .wouldBlock, .data [0, 2, 8], .interrupted, .data [1, 0, 0]]
    let inputs : List (Input Script) := (reads ++ Ending.endOfStream.reads).map (.read 1)
    let start : Channel Script := (Channel.fresh {} {} (some .recording)).run [.accept 7]
    (start.run inputs).occupancy.departuresOf 1 = [.closed .peerClosed] ∧
      start.run inputs = start.parse 1 [0, 0, 0, 2, 8, 1, 0, 0] .endOfStream := by
  intro reads inputs start
  have left : (start.run inputs).occupancy.departuresOf 1 = [.closed .peerClosed] := by
    decide +kernel
  have whole := inbound_stream_in_one_piece {} {} (some .recording) [] inputs 7 reads .endOfStream
    (by decide) (by decide) (by
      intro cause mem
      rw [List.nil_append, ← List.singleton_append, Channel.run_append] at mem
      have mem : cause ∈ (start.run inputs).occupancy.departuresOf 1 := mem
      rw [left] at mem
      exact ⟨.peerClosed, List.mem_singleton.1 mem⟩)
  exact ⟨left, (History.channel_run ⟨_, [], []⟩ _).symm.trans (whole.2.2.2.2 rfl)⟩

end ServiceChannel
