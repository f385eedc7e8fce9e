import ServiceChannel.Proofs.Channel.Run

/-!
# What one read does

A read hands over payloads whose frames stand at the front of what is buffered and what came, and
then either leaves the rest in the buffer or ends the connection, for a cause that the read
explains.

- `Channel.tracePayloads_traces`: handling payloads that were cut off already.
- `Channel.traceReceive_effect`: one read.
-/

namespace ServiceChannel

/-! ## Causes -/

/-- The bytes that were read. -/
def ReadOutcome.bytes : ReadOutcome → Bytes
  | .data bytes => bytes
  | _ => []

/-- A read that gives this can bring the reason with it. -/
def ReadOutcome.Explains : ReadOutcome → Teardown → Prop
  | .data _, .decodeFailed _ => True
  | .endOfStream, .decodeFailed _ => True
  | .endOfStream, .peerClosed => True
  | .failed error, .exception other => error = other
  | _, _ => False

/-- A read that gives this can take its connection out for this cause. -/
def ReadOutcome.Ends (outcome : ReadOutcome) : Cause → Prop
  | .replaced => False
  | .closed reason => outcome.Explains reason
  -- A message can ask for a stop, and a stop can let go of everything.
  | .released => True

/-- Handling payloads can take their connection out for this cause. -/
def Cause.OfHandling : Cause → Prop
  | .closed (.decodeFailed _) => True
  | .released => True
  | _ => False

theorem Cause.OfHandling.ends_data {cause : Cause} (ofHandling : cause.OfHandling)
    (bytes : Bytes) : (ReadOutcome.data bytes).Ends cause := by
  rcases cause with _ | (_ | _ | _) | _ <;> simp_all [Cause.OfHandling, ReadOutcome.Ends,
    ReadOutcome.Explains]

theorem Cause.OfHandling.ends_endOfStream {cause : Cause} (ofHandling : cause.OfHandling) :
    ReadOutcome.endOfStream.Ends cause := by
  rcases cause with _ | (_ | _ | _) | _ <;> simp_all [Cause.OfHandling, ReadOutcome.Ends,
    ReadOutcome.Explains]

namespace Occupancy

/-! ## Effects -/

/-- What handling payloads comes to: all are handed over and the connection stays as it was, or the
last one that was handed over ends it. -/
inductive Traces (before : Occupancy) (cut : Frame.Cut) :
    List Bytes → Option Bytes → Occupancy → Prop where
  | whole : cut.tail = .incomplete → Traces before cut cut.payloads (some cut.rest) before
  | part {handed : List Bytes} {cause : Cause} : handed <+: cut.payloads → cause.OfHandling →
      Traces before cut handed none (before.vacate cause)

/-- What a read comes to, with the payloads it hands over. -/
inductive ReadEffect (before : Occupancy) (reader : Reader) (outcome : ReadOutcome) :
    List Bytes → Occupancy → Prop where
  | keeps {payloads : List Bytes} {rest : Bytes} :
      reader.buffered ++ outcome.bytes = payloads.flatMap Frame.frame ++ rest →
      Frame.split before.config.maxMessageSize rest = .incomplete →
      ReadEffect before reader outcome payloads (before.buffer reader.connection rest)
  | ends {payloads : List Bytes} {cause : Cause} :
      payloads.flatMap Frame.frame <+: reader.buffered ++ outcome.bytes → outcome.Ends cause →
      ReadEffect before reader outcome payloads (before.vacate cause)

theorem Traces.cons {before after : Occupancy} {payloads handed : List Bytes} {tail : Frame.Tail}
    {rest : Bytes} {left : Option Bytes}
    (traces : before.Traces ⟨payloads, tail, rest⟩ handed left after) (payload : Bytes) :
    before.Traces ⟨payload :: payloads, tail, rest⟩ (payload :: handed) left after := by
  cases traces with
  | whole unfinished => exact .whole unfinished
  | part front ofHandling => exact .part (List.cons_prefix_cons.2 ⟨rfl, front⟩) ofHandling

theorem Traces.of_some {before after : Occupancy} {cut : Frame.Cut} {handed : List Bytes}
    {left : Bytes} (traces : before.Traces cut handed (some left) after) :
    handed = cut.payloads ∧ left = cut.rest ∧ after = before ∧ cut.tail = .incomplete := by
  cases traces with
  | whole unfinished => exact ⟨rfl, rfl, rfl, unfinished⟩

theorem Traces.of_none {before after : Occupancy} {cut : Frame.Cut} {handed : List Bytes}
    (traces : before.Traces cut handed none after) :
    handed <+: cut.payloads ∧ ∃ cause : Cause, cause.OfHandling ∧ after = before.vacate cause := by
  cases traces with
  | part front ofHandling => exact ⟨front, _, ofHandling, rfl⟩

theorem ReadEffect.front {before after : Occupancy} {reader : Reader} {outcome : ReadOutcome}
    {payloads : List Bytes} (effect : before.ReadEffect reader outcome payloads after) :
    payloads.flatMap Frame.frame <+: reader.buffered ++ outcome.bytes := by
  cases effect with
  | keeps whole _ => exact ⟨_, whole.symm⟩
  | ends front _ => exact front

theorem ReadEffect.of_nothing {occupancy : Occupancy} {reader : Reader} {outcome : ReadOutcome}
    (sound : occupancy.Sound) (single : occupancy.readers = [reader])
    (nothing : outcome.bytes = []) : occupancy.ReadEffect reader outcome [] occupancy := by
  have kept : occupancy.ReadEffect reader outcome []
      (occupancy.buffer reader.connection reader.buffered) :=
    .keeps (by rw [nothing, List.append_nil]; rfl)
      (sound.unfinished reader (single ▸ List.mem_singleton.2 rfl))
  rwa [buffer_self single] at kept

end Occupancy

namespace Channel

variable {κ : Type} [Kernel κ]

omit [Kernel κ] in
theorem occupancy_close_of_current {channel : Channel κ} {id : Nat}
    (current : channel.occupancy.isCurrent id = true) (reason : Teardown) :
    (channel.close id reason).occupancy = channel.occupancy.vacate (.closed reason) := by
  rw [occupancy_close, Occupancy.close, current, if_pos rfl]

/-! ## Handling payloads -/

/-- A payload that is refused does nothing. -/
theorem handlePayload_of_error {channel after : Channel κ} {payload : Bytes} {error : MessageError}
    (failed : channel.handlePayload payload = (.error error, after)) : after = channel := by
  unfold handlePayload at failed
  split at failed
  · cases failed
  · split at failed
    · cases failed
    · cases failed
      rfl

theorem tracePayloads_traces {channel : Channel κ} {id : Nat}
    (current : channel.occupancy.isCurrent id = true) (tail : Frame.Tail) (rest : Bytes)
    (payloads : List Bytes) :
    let traced := channel.tracePayloads id tail rest payloads
    channel.occupancy.Traces ⟨payloads, tail, rest⟩ (traced.1.map (·.payload)) traced.2.1
      traced.2.2.occupancy := by
  induction payloads generalizing channel with
  | nil =>
    cases tail with
    | incomplete => exact .whole rfl
    | oversized size =>
      dsimp only [tracePayloads]
      rw [occupancy_close_of_current current]
      exact .part (List.prefix_refl _) trivial
  | cons payload payloads ih =>
    have first : [payload] <+: payload :: payloads := ⟨payloads, rfl⟩
    have handled := handlePayload_handled channel payload
    dsimp only [tracePayloads]
    split
    · rename_i error after failed
      obtain rfl := handlePayload_of_error failed
      rw [occupancy_close_of_current current]
      exact .part first trivial
    · rename_i after done
      rw [done] at handled
      dsimp only at handled
      split
      · rename_i still
        have later := ih still
        rw [handled.eq_of_isCurrent still] at later
        exact later.cons payload
      · rename_i gone
        rw [handled.eq_vacate current gone]
        exact .part first trivial

/-- Every payload is handed over while its connection is the open one. -/
theorem tracePayloads_current {channel : Channel κ} {id : Nat}
    (current : channel.engine.isCurrent id = true) (tail : Frame.Tail) (rest : Bytes)
    (payloads : List Bytes) :
    ∀ handover ∈ (channel.tracePayloads id tail rest payloads).1,
      handover.connection = id ∧ handover.channel.engine.isCurrent id = true := by
  induction payloads generalizing channel with
  | nil => cases tail <;> simp [tracePayloads]
  | cons payload payloads ih =>
    dsimp only [tracePayloads]
    split
    · simp [current]
    · rename_i after _
      split
      · rename_i still
        simpa [current] using ih still
      · simp [current]

/-! ## Reads -/

omit [Kernel κ] in
theorem reader?_eq_some {channel : Channel κ} (sound : channel.occupancy.Sound) {id : Nat}
    {reader : Reader} (found : channel.engine.reader? id = some reader) :
    reader.connection = id ∧ channel.engine.readers = [reader] ∧
      channel.occupancy.isCurrent id = true := by
  have mem := List.mem_of_find?_eq_some found
  have same : reader.connection = id := by simpa using List.find?_some found
  obtain ⟨single, current⟩ := sound.of_mem mem
  refine ⟨same, single, ?_⟩
  rw [Occupancy.isCurrent, current]
  simpa [Occupancy.connectionOf] using same

theorem traceFrames_traces {channel : Channel κ} {id : Nat}
    (current : channel.occupancy.isCurrent id = true) (buffer : Bytes) :
    let traced := channel.traceFrames id buffer
    let cut := Frame.cut channel.engine.config.maxMessageSize buffer
    channel.occupancy.Traces cut (traced.1.map (·.payload)) traced.2.1 traced.2.2.occupancy :=
  tracePayloads_traces current _ _ _

theorem traceFrames_current {channel : Channel κ} {id : Nat}
    (current : channel.engine.isCurrent id = true) (buffer : Bytes) :
    ∀ handover ∈ (channel.traceFrames id buffer).1,
      handover.connection = id ∧ handover.channel.engine.isCurrent id = true :=
  tracePayloads_current current _ _ _

omit [Kernel κ] in
/-- The frames of payloads that were handed over stand at the front of the buffer. -/
theorem frames_at_front {max : Nat} {buffer : Bytes} {handed : List Bytes}
    (front : handed <+: (Frame.cut max buffer).payloads) :
    handed.flatMap Frame.frame <+: buffer := by
  obtain ⟨later, whole⟩ := front
  have stream := Frame.eq_frames_append_rest max buffer
  rw [← whole, List.flatMap_append, List.append_assoc] at stream
  exact ⟨_, stream.symm⟩

/-- Bytes that arrive are cut into payloads together with what is buffered. -/
theorem traceReceive_data_effect {channel : Channel κ} {reader : Reader}
    (found : channel.engine.reader? reader.connection = some reader)
    (current : channel.occupancy.isCurrent reader.connection = true) (bytes : Bytes) :
    channel.occupancy.ReadEffect reader (.data bytes)
      ((channel.traceReceive reader.connection (.data bytes)).1.map (·.payload))
      (channel.traceReceive reader.connection (.data bytes)).2.occupancy := by
  let emptied := channel.onEngine (·.setBuffered reader.connection [])
  have traces := emptied.traceFrames_traces current (reader.buffered ++ bytes)
  unfold traceReceive
  rw [found]
  dsimp only at traces ⊢
  split
  · rename_i handed after traced
    rw [traced] at traces
    obtain ⟨front, cause, ofHandling, same⟩ := traces.of_none
    dsimp only at same ⊢
    rw [same, occupancy_setBuffered, Occupancy.vacate_buffer current]
    exact .ends (frames_at_front front) (ofHandling.ends_data bytes)
  · rename_i handed rest after traced
    rw [traced] at traces
    obtain ⟨all, left, same, unfinished⟩ := traces.of_some
    dsimp only at all left same ⊢
    rw [occupancy_setBuffered, same, occupancy_setBuffered, Occupancy.buffer_buffer, all, left]
    exact .keeps (Frame.eq_frames_append_rest _ _) (Frame.split_rest_of_incomplete unfinished)

/-- At the end of the stream what is buffered is cut once more. -/
theorem traceReceive_endOfStream_effect {channel : Channel κ} {reader : Reader}
    (found : channel.engine.reader? reader.connection = some reader)
    (current : channel.occupancy.isCurrent reader.connection = true) :
    channel.occupancy.ReadEffect reader .endOfStream
      ((channel.traceReceive reader.connection .endOfStream).1.map (·.payload))
      (channel.traceReceive reader.connection .endOfStream).2.occupancy := by
  have traces := traceFrames_traces current reader.buffered
  have nothing : reader.buffered ++ ReadOutcome.endOfStream.bytes = reader.buffered :=
    List.append_nil _
  unfold traceReceive
  rw [found]
  dsimp only at traces ⊢
  split
  · rename_i handed after traced
    rw [traced] at traces
    obtain ⟨front, cause, ofHandling, same⟩ := traces.of_none
    dsimp only at same ⊢
    rw [same]
    refine .ends ?_ ofHandling.ends_endOfStream
    rw [nothing]
    exact frames_at_front front
  · rename_i handed rest after traced
    rw [traced] at traces
    obtain ⟨all, left, same, -⟩ := traces.of_some
    dsimp only at all left same ⊢
    have reported : (if rest.isEmpty then after
        else after.record (.discardingPartial reader.connection rest.length)).occupancy =
        channel.occupancy := by
      split
      · exact same
      · simpa using same
    rw [occupancy_close_of_current (by rw [reported]; exact current), reported]
    refine .ends ?_ trivial
    rw [nothing, all]
    exact frames_at_front (List.prefix_refl _)

/-- What one read does to a connection whose reader is at work. -/
theorem traceReceive_effect {channel : Channel κ} (sound : channel.occupancy.Sound) {id : Nat}
    {reader : Reader} (found : channel.engine.reader? id = some reader) (outcome : ReadOutcome) :
    channel.occupancy.ReadEffect reader outcome
      ((channel.traceReceive id outcome).1.map (·.payload))
      (channel.traceReceive id outcome).2.occupancy := by
  obtain ⟨rfl, single, current⟩ := reader?_eq_some sound found
  cases outcome with
  | data bytes => exact traceReceive_data_effect found current bytes
  | endOfStream => exact traceReceive_endOfStream_effect found current
  | failed error =>
    unfold traceReceive
    rw [found]
    dsimp only
    rw [receive, found, occupancy_close_of_current current]
    exact .ends List.nil_prefix rfl
  | wouldBlock =>
    unfold traceReceive
    rw [found]
    dsimp only
    rw [receive, found]
    exact .of_nothing sound single rfl
  | interrupted =>
    unfold traceReceive
    rw [found]
    dsimp only
    rw [receive, found]
    exact .of_nothing sound single rfl

/-- A connection whose reader has stopped is not read. -/
theorem traceReceive_of_none {channel : Channel κ} {id : Nat}
    (gone : channel.engine.reader? id = none) (outcome : ReadOutcome) :
    channel.traceReceive id outcome = ([], channel) := by
  unfold traceReceive
  rw [gone]
  cases outcome <;> simp only [receive, gone]

/-- Every payload is handed over while its connection is the open one. -/
theorem traceReceive_current {channel : Channel κ} (sound : channel.occupancy.Sound) {id : Nat}
    (outcome : ReadOutcome) : ∀ handover ∈ (channel.traceReceive id outcome).1,
      handover.connection = id ∧ handover.channel.engine.isCurrent id = true := by
  cases found : channel.engine.reader? id with
  | none => simp [traceReceive_of_none found]
  | some reader =>
    obtain ⟨rfl, -, current⟩ := reader?_eq_some sound found
    unfold traceReceive
    rw [found]
    cases outcome with
    | data bytes =>
      let emptied := channel.onEngine (·.setBuffered reader.connection [])
      have handed := emptied.traceFrames_current current (reader.buffered ++ bytes)
      dsimp only
      split <;> rename_i traced <;> rw [traced] at handed <;> exact handed
    | endOfStream =>
      have handed := traceFrames_current current reader.buffered
      dsimp only
      split <;> rename_i traced <;> rw [traced] at handed <;> exact handed
    | wouldBlock => simp
    | interrupted => simp
    | failed error => simp

end Channel
end ServiceChannel
