import ServiceChannel.Proofs.Channel.Generations
import ServiceChannel.Proofs.Message.Understanding

/-!
# Streams in one piece

Reading a stream in pieces does what handling it in one piece does.

- `Channel.parse`: a stream in one piece, with its end.
- `Channel.tracePayloads_understood`: handling a buffer is handling what it says.
- `Channel.run_pieces`: reads of pieces are one read of their bytes.
-/

namespace ServiceChannel

/-- The read brings bytes, or nothing for now. -/
def ReadOutcome.isPiece : ReadOutcome → Bool
  | .data _ | .wouldBlock | .interrupted => true
  | .endOfStream | .failed _ => false

/-- How a stream ends. -/
inductive Ending where
  /-- It may go on. -/
  | pending
  | endOfStream
  | failed (error : SystemError)
  deriving DecidableEq

namespace Ending

/-- The read that brings the end. -/
def reads : Ending → List ReadOutcome
  | .pending => []
  | .endOfStream => [.endOfStream]
  | .failed error => [.failed error]

/-- Why the end closes the connection. -/
def teardown? : Ending → Option Teardown
  | .pending => none
  | .endOfStream => some .peerClosed
  | .failed error => some (.exception error)

end Ending

namespace Channel

variable {κ : Type} [Kernel κ]

/-! ## Streams in one piece -/

/-- Handles payloads, one after the other. -/
def handleAll (channel : Channel κ) (payloads : List Bytes) : Channel κ :=
  payloads.foldl (fun channel payload => (channel.handlePayload payload).2) channel

/-- A payload that ends the connection does nothing else. -/
theorem handlePayload_of_fault (channel : Channel κ) {payload : Bytes} {error : MessageError}
    (faulty : AgentMessage.fault? payload = some error) :
    channel.handlePayload payload = (.error error, channel) := by
  unfold AgentMessage.fault? at faulty
  unfold handlePayload
  cases decoded : AgentMessage.decode payload with
  | ok message => simp [decoded] at faulty
  | error found =>
    simp only [decoded] at faulty ⊢
    split at faulty
    · cases faulty
    · rename_i refused
      cases faulty
      rw [if_neg refused]

/-- Any other payload is taken, in every state. -/
theorem handlePayload_of_sound (channel : Channel κ) {payload : Bytes}
    (sound : AgentMessage.fault? payload = none) :
    channel.handlePayload payload = (.ok (), (channel.handlePayload payload).2) := by
  refine Prod.ext ?_ rfl
  unfold AgentMessage.fault? at sound
  unfold handlePayload
  cases decoded : AgentMessage.decode payload with
  | ok message => rfl
  | error found =>
    simp only [decoded] at sound ⊢
    split at sound
    · rename_i passed
      rw [if_pos passed]
    · cases sound

/-- Lets the stream of a connection come to its end, with these bytes left. -/
def conclude (channel : Channel κ) (id : Nat) (left : Bytes) : Ending → Channel κ
  | .pending => channel.onEngine (·.setBuffered id left)
  | .endOfStream =>
    let channel := if left.isEmpty then channel
      else channel.record (.discardingPartial id left.length)
    channel.close id .peerClosed
  | .failed error => channel.close id (.exception error)

/-- Handles the stream of a connection in one piece, with its end. -/
def parse (channel : Channel κ) (id : Nat) (stream : Bytes) (ending : Ending) : Channel κ :=
  let said := understand channel.engine.config.maxMessageSize stream
  let handled := channel.handleAll said.payloads
  match said.fault with
  | some error => handled.close id (.decodeFailed error)
  | none => handled.conclude id said.rest ending

/-! ## Handling what was said -/

theorem handleAll_cons (channel : Channel κ) (payload : Bytes) (payloads : List Bytes) :
    channel.handleAll (payload :: payloads) =
      (channel.handlePayload payload).2.handleAll payloads := rfl

/-- Handling payloads that were cut off a buffer is handling those that the buffer says, unless a
handler lets go of the connection. -/
theorem tracePayloads_understood {channel : Channel κ} {id : Nat}
    (current : channel.occupancy.isCurrent id = true) (tail : Frame.Tail) (rest : Bytes)
    (payloads : List Bytes) :
    let said := Understanding.ofPayloads (tail.fault? channel.engine.config.maxMessageSize) rest
      payloads
    let handled := channel.handleAll said.payloads
    let traced := channel.tracePayloads id tail rest payloads
    traced.2.2.occupancy = channel.occupancy.vacate .released ∨
      traced.1.map (·.payload) = said.payloads ∧ handled.occupancy = channel.occupancy ∧
        traced.2 = match said.fault with
          | none => (some said.rest, handled)
          | some error => (none, handled.close id (.decodeFailed error)) := by
  induction payloads generalizing channel with
  | nil => cases tail <;> exact .inr ⟨rfl, rfl, rfl⟩
  | cons payload payloads ih =>
    cases judged : AgentMessage.fault? payload with
    | some error =>
      have refused := channel.handlePayload_of_fault judged
      simp only [tracePayloads, Understanding.ofPayloads, judged, refused, handleAll_cons]
      exact .inr ⟨rfl, rfl, rfl⟩
    | none =>
      have taken := channel.handlePayload_of_sound judged
      have handled := handlePayload_handled channel payload
      rw [tracePayloads, taken]
      simp only [Understanding.ofPayloads, judged, handleAll_cons]
      generalize (channel.handlePayload payload).2 = after at handled
      split
      · rename_i still
        have kept := handled.eq_of_isCurrent still
        have limit : after.engine.config = channel.engine.config := congrArg Occupancy.config kept
        have later := ih still
        rw [limit, kept] at later
        rcases later with released | ⟨handed, same, result⟩
        · exact .inl released
        · exact .inr ⟨congrArg (payload :: ·) handed, same, result⟩
      · rename_i gone
        exact .inl (handled.eq_vacate current gone)

/-! ## Buffers -/

omit [Kernel κ] in
theorem setBuffered_setBuffered (channel : Channel κ) (id : Nat) (bytes other : Bytes) :
    (channel.onEngine (·.setBuffered id bytes)).onEngine (·.setBuffered id other) =
      channel.onEngine (·.setBuffered id other) := by
  simp only [onEngine, Engine.setBuffered_eq, leaveBuffered_leaveBuffered]

omit [Kernel κ] in
theorem setBuffered_self {channel : Channel κ} {reader : Reader}
    (single : channel.engine.readers = [reader]) :
    channel.onEngine (·.setBuffered reader.connection reader.buffered) = channel := by
  rw [onEngine, Engine.setBuffered_eq, single, leaveBuffered_singleton, ← single]

omit [Kernel κ] in
theorem close_setBuffered (channel : Channel κ) (id : Nat) (bytes : Bytes) (reason : Teardown)
    (current : channel.occupancy.isCurrent id = true) :
    (channel.onEngine (·.setBuffered id bytes)).close id reason = channel.close id reason := by
  obtain ⟨socket, slot⟩ := Occupancy.isCurrent_iff.1 current
  have slot : channel.engine.connection = some ⟨id, socket⟩ := slot
  simp only [close, onEngine, Engine.setBuffered_eq, slot, if_true, disconnect, record, retire,
    filter_leaveBuffered]

omit [Kernel κ] in
theorem reader?_of_single {channel : Channel κ} {reader : Reader}
    (single : channel.engine.readers = [reader]) :
    channel.engine.reader? reader.connection = some reader := by
  simp [Engine.reader?, single]

omit [Kernel κ] in
theorem reader?_of_not_current {channel : Channel κ} (sound : channel.occupancy.Sound) {id : Nat}
    (gone : channel.occupancy.isCurrent id = false) : channel.engine.reader? id = none := by
  cases found : channel.engine.reader? id with
  | none => rfl
  | some reader =>
    obtain ⟨-, -, current⟩ := reader?_eq_some sound found
    exact absurd (gone.symm.trans current) (by decide)

omit [Kernel κ] in
theorem occupancy_conclude {channel : Channel κ} {id : Nat}
    (current : channel.occupancy.isCurrent id = true) (left : Bytes) {ending : Ending}
    {reason : Teardown} (ends : ending.teardown? = some reason) :
    (channel.conclude id left ending).occupancy = channel.occupancy.vacate (.closed reason) := by
  cases ending with
  | pending => cases ends
  | failed error =>
    cases ends
    exact occupancy_close_of_current current _
  | endOfStream =>
    cases ends
    have reported : (if left.isEmpty then channel
        else channel.record (.discardingPartial id left.length)).occupancy = channel.occupancy := by
      split
      · rfl
      · simp
    unfold conclude
    dsimp only
    rw [occupancy_close_of_current (by rw [reported]; exact current), reported]

omit [Kernel κ] in
/-- What was left in the buffer does not matter to the end of the stream. -/
theorem conclude_setBuffered {channel : Channel κ} {id : Nat}
    (current : channel.occupancy.isCurrent id = true) (bytes left : Bytes) (ending : Ending) :
    (channel.onEngine (·.setBuffered id bytes)).conclude id left ending =
      channel.conclude id left ending := by
  cases ending with
  | pending => exact setBuffered_setBuffered channel id bytes left
  | failed error => exact close_setBuffered channel id bytes (.exception error) current
  | endOfStream =>
    unfold conclude
    dsimp only
    split
    · exact close_setBuffered channel id bytes _ current
    · exact close_setBuffered (channel.record _) id bytes _ current

/-! ## Reads of pieces -/

/-- Handling a buffer that goes on is handling its front, and then what that left together with
what comes. -/
theorem handleFrames_append (channel : Channel κ) (id : Nat) (front more : Bytes) :
    channel.handleFrames id (front ++ more) =
      match channel.handleFrames id front with
      | (none, after) => (none, after)
      | (some rest, after) => after.handleFrames id (rest ++ more) := by
  generalize limit : channel.engine.config.maxMessageSize = max
  induction front using Frame.splitInduction max generalizing channel with
  | incomplete front found =>
    subst limit
    rw [handleFrames_of_incomplete id found]
  | oversized front size found =>
    subst limit
    rw [handleFrames_of_oversized id found,
      handleFrames_of_oversized id (Frame.split_append_of_oversized more found)]
  | complete front payload rest found ih =>
    subst limit
    have config := config_handlePayload channel payload
    rw [handleFrames_of_complete id found,
      handleFrames_of_complete id (Frame.split_append_of_complete more found)]
    split
    · rfl
    · rename_i after done
      rw [done] at config
      split
      · exact ih after (by rw [config])
      · rfl

theorem receive_of_none {channel : Channel κ} {id : Nat}
    (gone : channel.engine.reader? id = none) (outcome : ReadOutcome) :
    channel.receive id outcome = channel := by
  rw [receive, gone]

/-- Two reads of data are one. -/
theorem receive_receive {channel : Channel κ} (sound : channel.occupancy.Sound) (id : Nat)
    (first second : Bytes) :
    (channel.receive id (.data first)).receive id (.data second) =
      channel.receive id (.data (first ++ second)) := by
  cases found : channel.engine.reader? id with
  | none => rw [receive_of_none found, receive_of_none found, receive_of_none found]
  | some reader =>
    obtain ⟨rfl, single, current⟩ := reader?_eq_some sound found
    let emptied := channel.onEngine (·.setBuffered reader.connection [])
    have traces := emptied.traceFrames_traces current (reader.buffered ++ first)
    have whole := handleFrames_append emptied reader.connection (reader.buffered ++ first) second
    rw [List.append_assoc] at whole
    have one (bytes : Bytes) : channel.receive reader.connection (.data bytes) =
        match emptied.handleFrames reader.connection (reader.buffered ++ bytes) with
        | (none, after) => after
        | (some rest, after) => after.onEngine (·.setBuffered reader.connection rest) := by
      rw [receive, found]
      rfl
    rw [one first, one (first ++ second), whole]
    have same := traceFrames_snd emptied reader.connection (reader.buffered ++ first)
    generalize emptied.handleFrames reader.connection (reader.buffered ++ first) = result at same
    obtain ⟨left, after⟩ := result
    dsimp only at traces
    rw [same] at traces
    cases left with
    -- The first piece ends the connection, and nobody reads the second.
    | none =>
      obtain ⟨-, cause, -, vacated⟩ := traces.of_none
      have vacated : after.occupancy = channel.occupancy.vacate cause :=
        vacated.trans (Occupancy.vacate_buffer current _ _)
      have sound : after.occupancy.Sound := vacated ▸ sound.vacate cause
      refine receive_of_none (reader?_of_not_current sound ?_) _
      rw [vacated]
      exact Occupancy.isCurrent_vacate _ _ _
    -- Else its rest waits in the buffer, and the second piece is read behind it.
    | some rest =>
      obtain ⟨-, -, kept, -⟩ := traces.of_some
      have alone : after.engine.readers = [{ reader with buffered := [] }] := by
        have readers := congrArg Occupancy.readers kept
        refine readers.trans ?_
        change leaveBuffered reader.connection [] channel.engine.readers = _
        rw [single, leaveBuffered_singleton]
      have waiting : (after.onEngine (·.setBuffered reader.connection rest)).engine.readers =
          [{ reader with buffered := rest }] := by
        change leaveBuffered reader.connection rest after.engine.readers = _
        rw [alone]
        exact leaveBuffered_singleton { reader with buffered := [] } rest
      have found : (after.onEngine (·.setBuffered reader.connection rest)).engine.reader?
          reader.connection = some { reader with buffered := rest } := by
        simp [Engine.reader?, waiting]
      have back : (after.onEngine (·.setBuffered reader.connection rest)).onEngine
          (·.setBuffered reader.connection []) = after := by
        rw [setBuffered_setBuffered]
        exact setBuffered_self alone
      dsimp only
      rw [receive, found]
      exact congrArg (fun emptied =>
        match emptied.handleFrames reader.connection (rest ++ second) with
        | (none, after) => after
        | (some rest, after) => after.onEngine (·.setBuffered reader.connection rest)) back

/-- A reader keeps what it has when nothing comes. -/
theorem receive_nothing {channel : Channel κ} (sound : channel.occupancy.Sound) (id : Nat) :
    channel.receive id (.data []) = channel := by
  cases found : channel.engine.reader? id with
  | none => exact receive_of_none found _
  | some reader =>
    obtain ⟨rfl, single, -⟩ := reader?_eq_some sound found
    have unfinished := sound.unfinished reader (List.mem_of_find?_eq_some found)
    rw [receive, found]
    dsimp only [handleBytes]
    have nothing : (channel.onEngine (·.setBuffered reader.connection [])).handleFrames
        reader.connection reader.buffered =
        (some reader.buffered, channel.onEngine (·.setBuffered reader.connection [])) :=
      handleFrames_of_incomplete reader.connection unfinished
    rw [List.append_nil, nothing]
    dsimp only
    rw [setBuffered_setBuffered, setBuffered_self single]

theorem receive_wouldBlock (channel : Channel κ) (id : Nat) :
    channel.receive id .wouldBlock = channel := by
  unfold receive
  split <;> rfl

theorem receive_interrupted (channel : Channel κ) (id : Nat) :
    channel.receive id .interrupted = channel := by
  unfold receive
  split <;> rfl

/-- Reads of pieces are one read of their bytes. -/
theorem run_pieces {channel : Channel κ} (sound : channel.occupancy.Sound) (id : Nat)
    {pieces : List ReadOutcome} (brought : ∀ outcome ∈ pieces, outcome.isPiece = true) :
    channel.run (pieces.map (.read id)) =
      channel.step (.read id (.data (pieces.flatMap ReadOutcome.bytes))) := by
  induction pieces generalizing channel with
  | nil => exact (receive_nothing sound id).symm
  | cons outcome pieces ih =>
    have piece := brought outcome (by simp)
    have rest : ∀ other ∈ pieces, other.isPiece = true :=
      fun other mem => brought other (by simp [mem])
    refine (ih (step_sound sound (.read id outcome)) rest).trans ?_
    cases outcome with
    | data bytes => exact receive_receive sound id bytes _
    | wouldBlock =>
      have quiet : channel.step (.read id .wouldBlock) = channel := receive_wouldBlock channel id
      rw [quiet]
      rfl
    | interrupted =>
      have quiet : channel.step (.read id .interrupted) = channel := receive_interrupted channel id
      rw [quiet]
      rfl
    | endOfStream => cases piece
    | failed error => cases piece

/-! ## One read -/

theorem traceFrames_understood {channel : Channel κ} {id : Nat} (max : Nat)
    (current : channel.occupancy.isCurrent id = true)
    (limit : channel.engine.config.maxMessageSize = max) (buffer : Bytes) :
    let said := understand max buffer
    let handled := channel.handleAll said.payloads
    let traced := channel.traceFrames id buffer
    traced.2.2.occupancy = channel.occupancy.vacate .released ∨
      traced.1.map (·.payload) = said.payloads ∧ handled.occupancy = channel.occupancy ∧
        traced.2 = match said.fault with
          | none => (some said.rest, handled)
          | some error => (none, handled.close id (.decodeFailed error)) := by
  subst limit
  exact tracePayloads_understood current _ _ _

/-- A read of data handles what the buffer and the data say together, unless a handler lets go of
the connection. -/
theorem traceReceive_understood {channel : Channel κ} (sound : channel.occupancy.Sound) {id : Nat}
    {reader : Reader} (found : channel.engine.reader? id = some reader) (bytes : Bytes) :
    let said := understand channel.engine.config.maxMessageSize (reader.buffered ++ bytes)
    let handled := (channel.onEngine (·.setBuffered id [])).handleAll said.payloads
    let traced := channel.traceReceive id (.data bytes)
    traced.2.occupancy = channel.occupancy.vacate .released ∨
      traced.1.map (·.payload) = said.payloads ∧
        handled.occupancy = channel.occupancy.buffer id [] ∧
        traced.2 = match said.fault with
          | none => handled.onEngine (·.setBuffered id said.rest)
          | some error => handled.close id (.decodeFailed error) := by
  obtain ⟨rfl, -, current⟩ := reader?_eq_some sound found
  let emptied := channel.onEngine (·.setBuffered reader.connection [])
  have still : emptied.occupancy.isCurrent reader.connection = true := current
  have traces := traceFrames_traces still (reader.buffered ++ bytes)
  have understood := traceFrames_understood channel.engine.config.maxMessageSize still rfl
    (reader.buffered ++ bytes)
  unfold traceReceive
  rw [found]
  dsimp only [emptied] at traces understood ⊢
  generalize (channel.onEngine (·.setBuffered reader.connection [])).traceFrames reader.connection
    (reader.buffered ++ bytes) = traced at traces understood ⊢
  generalize understand channel.engine.config.maxMessageSize (reader.buffered ++ bytes) = said
    at understood ⊢
  obtain ⟨handed, left, after⟩ := traced
  obtain ⟨payloads, fault, rest⟩ := said
  rcases understood with released | ⟨all, same, result⟩
  · cases left with
    | none => exact .inl (released.trans (Occupancy.vacate_buffer current _ _))
    | some left =>
      obtain ⟨-, -, kept, -⟩ := traces.of_some
      have gone : emptied.occupancy.isCurrent reader.connection = false := by
        rw [← kept, released]
        exact Occupancy.isCurrent_vacate _ _ _
      exact absurd (gone.symm.trans still) (by decide)
  · cases fault with
    | none =>
      cases result
      exact .inr ⟨all, same, rfl⟩
    | some error =>
      cases result
      exact .inr ⟨all, same, rfl⟩

/-- At the end of the stream, part of a frame is lost. -/
theorem traceReceive_endOfStream {channel : Channel κ} (sound : channel.occupancy.Sound) {id : Nat}
    {reader : Reader} (found : channel.engine.reader? id = some reader) :
    channel.traceReceive id .endOfStream =
      ([], channel.conclude id reader.buffered .endOfStream) := by
  obtain ⟨rfl, -, -⟩ := reader?_eq_some sound found
  have unfinished : Frame.split channel.engine.config.maxMessageSize reader.buffered =
      .incomplete := sound.unfinished reader (List.mem_of_find?_eq_some found)
  have nothing : channel.traceFrames reader.connection reader.buffered =
      ([], some reader.buffered, channel) := by
    unfold traceFrames
    rw [Frame.cut_of_incomplete unfinished]
    rfl
  unfold traceReceive
  rw [found]
  dsimp only
  rw [nothing]
  rfl

theorem traceReceive_wouldBlock (channel : Channel κ) (id : Nat) :
    channel.traceReceive id .wouldBlock = ([], channel) := by
  unfold traceReceive
  split <;> simp_all [receive_wouldBlock]

theorem traceReceive_interrupted (channel : Channel κ) (id : Nat) :
    channel.traceReceive id .interrupted = ([], channel) := by
  unfold traceReceive
  split <;> simp_all [receive_interrupted]

theorem traceReceive_failed {channel : Channel κ} {id : Nat} {reader : Reader}
    (found : channel.engine.reader? id = some reader) (error : SystemError) :
    channel.traceReceive id (.failed error) =
      ([], channel.conclude id reader.buffered (.failed error)) := by
  unfold traceReceive
  rw [found]
  dsimp only
  rw [receive, found]
  rfl

end Channel

end ServiceChannel
