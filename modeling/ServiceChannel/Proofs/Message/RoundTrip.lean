import ServiceChannel.Message.Host
import ServiceChannel.Proofs.Frame.Cut
import ServiceChannel.Proofs.Wire.Fields

/-!
# Messages across a stream

A message survives its payload, in both directions, and a list of messages survives the stream of
their frames, whatever part of a frame follows them.

- `AgentMessage.decode_encode`, `HostMessage.decode_encode`: one message.
- `Frame.cut_stream`: a stream of frames, for any pair of an encoder and a decoder.
- `messages_survive_streams`: both directions of the channel.
-/

namespace ServiceChannel

/-! ## From the agent -/

theorem AgentField.readField_write (field : AgentField) (rest : Bytes)
    (bound : (write field).length < UInt64.size) :
    schema.readField (write field ++ rest) = .ok (some field, rest) := by
  cases field with
  | code number => exact Wire.Schema.readField_writeEnumeration 1 rfl (by decide)
  | connectivity number => exact Wire.Schema.readField_writeEnumeration 2 rfl (by decide)
  | imei text => exact Wire.Schema.readField_writeText 3 rfl (by decide) bound
  | mac text => exact Wire.Schema.readField_writeText 4 rfl (by decide) bound
  | phoneNumber text => exact Wire.Schema.readField_writeText 5 rfl (by decide) bound
  | execPath text => exact Wire.Schema.readField_writeText 6 rfl (by decide) bound
  | execParam text => exact Wire.Schema.readField_writeText 7 rfl (by decide) bound
  | auditAck content => exact Wire.Schema.readField_writeBlob 8 rfl (by decide) bound

namespace AgentFields

theorem foldl_add_params (fields : AgentFields) (params : List String) :
    (params.map .execParam).foldl add fields =
      { fields with execParams := fields.execParams ++ params } := by
  induction params generalizing fields with
  | nil => simp
  | cons param params ih =>
    rw [List.map_cons, List.foldl_cons, ih]
    simp [add]

@[simp] theorem ofList_toList (fields : AgentFields) : ofList fields.toList = fields := by
  obtain ⟨code, connectivity, imei, mac, phoneNumber, execPath, params, auditAck⟩ := fields
  simp only [ofList, toList, List.foldl_append, foldl_add_params]
  cases code <;> cases connectivity <;> cases imei <;> cases mac <;> cases phoneNumber <;>
    cases execPath <;> cases auditAck <;> rfl

theorem decode_encode (fields : AgentFields) (bound : fields.encode.length < UInt64.size) :
    decode fields.encode = .ok fields := by
  have read : AgentField.schema.decode fields.encode = .ok fields.toList :=
    Wire.Schema.decode_flatMap fun field mem rest =>
      field.readField_write rest (Nat.lt_of_le_of_lt (Wire.length_write_le mem) bound)
  rw [decode, read, Except.map, ofList_toList]

end AgentFields

/-- A message survives its payload. -/
theorem AgentMessage.decode_encode (message : AgentMessage)
    (bound : message.encode.length < UInt64.size) : decode message.encode = .ok message := by
  have read : AgentFields.decode message.encode = .ok message.toFields :=
    AgentFields.decode_encode message.toFields bound
  rw [decode, read]
  exact ofFields_toFields message

/-! ## From the host -/

theorem HostField.readField_write (field : HostField) (rest : Bytes)
    (bound : (write field).length < UInt64.size) :
    schema.readField (write field ++ rest) = .ok (some field, rest) := by
  cases field with
  | code number => exact Wire.Schema.readField_writeEnumeration 1 rfl (by decide)
  | connectivity number => exact Wire.Schema.readField_writeEnumeration 2 rfl (by decide)
  | containerName text => exact Wire.Schema.readField_writeText 3 rfl (by decide) bound
  | containerDns text => exact Wire.Schema.readField_writeText 4 rfl (by decide) bound
  | auditRecord content => exact Wire.Schema.readField_writeBlob 5 rfl (by decide) bound
  | remainingStorage number => exact Wire.Schema.readField_writeUnsigned 6 rfl (by decide)

namespace HostFields

@[simp] theorem ofList_toList (fields : HostFields) : ofList fields.toList = fields := by
  obtain ⟨code, connectivity, containerName, containerDns, auditRecord, storage⟩ := fields
  cases code <;> cases connectivity <;> cases containerName <;> cases containerDns <;>
    cases auditRecord <;> cases storage <;> rfl

theorem decode_encode (fields : HostFields) (bound : fields.encode.length < UInt64.size) :
    decode fields.encode = .ok fields := by
  have read : HostField.schema.decode fields.encode = .ok fields.toList :=
    Wire.Schema.decode_flatMap fun field mem rest =>
      field.readField_write rest (Nat.lt_of_le_of_lt (Wire.length_write_le mem) bound)
  rw [decode, read, Except.map, ofList_toList]

end HostFields

/-- A message survives its payload. -/
theorem HostMessage.decode_encode (message : HostMessage)
    (bound : message.encode.length < UInt64.size) : decode message.encode = .ok message := by
  have read : HostFields.decode message.encode = .ok message.toFields :=
    HostFields.decode_encode message.toFields bound
  rw [decode, read]
  exact ofFields_toFields message

/-! ## Streams -/

namespace Frame

variable {Message : Type}

/-- The stream of the messages' frames; the error of the first message that does not fit. -/
def stream (max : Nat) (encode : Message → Bytes) (messages : List Message) :
    Except MessageError Bytes :=
  (messages.mapM fun message => Frame.encode max (encode message)).map List.flatten

theorem stream_eq {max : Nat} {encode : Message → Bytes} {messages : List Message}
    (fits : ∀ message ∈ messages, (encode message).length ≤ max) :
    stream max encode messages = .ok ((messages.map encode).flatMap frame) := by
  unfold stream
  induction messages with
  | nil => rfl
  | cons message messages ih =>
    have first : Frame.encode max (encode message) = .ok (frame (encode message)) :=
      encode_of_fits (fits message (by simp))
    have later := ih fun other mem => fits other (by simp [mem])
    rw [List.mapM_cons, first]
    cases framed : messages.mapM fun message => Frame.encode max (encode message) with
    | error error =>
      rw [framed] at later
      cases later
    | ok frames =>
      rw [framed] at later
      have joined : frames.flatten = (messages.map encode).flatMap frame := Except.ok.inj later
      simp [bind, Except.bind, pure, Except.pure, Except.map, joined]

/-- Cutting the stream of some messages, with part of a frame behind it, gives the messages and
leaves the part. -/
theorem cut_stream {max : Nat} {encode : Message → Bytes}
    {decode : Bytes → Except MessageError Message}
    (sound : ∀ message, (encode message).length ≤ lengthLimit →
      decode (encode message) = .ok message)
    (limit : max ≤ lengthLimit) {rest : Bytes} (pending : split max rest = .incomplete)
    {messages : List Message} (fits : ∀ message ∈ messages, (encode message).length ≤ max) :
    ∃ written payloads, stream max encode messages = .ok written ∧
      cut max (written ++ rest) = ⟨payloads, .incomplete, rest⟩ ∧
      payloads.map decode = messages.map .ok := by
  refine ⟨_, messages.map encode, stream_eq fits, ?_, ?_⟩
  · have each : ∀ payload ∈ messages.map encode, payload.length ≤ max := by
      intro payload mem
      obtain ⟨message, known, rfl⟩ := List.mem_map.1 mem
      exact fits message known
    rw [cut_frames_append each (fun payload mem => Nat.le_trans (each payload mem) limit),
      cut_of_incomplete pending, List.append_nil]
  · rw [List.map_map]
    refine List.map_congr_left fun message mem => ?_
    exact sound message (Nat.le_trans (fits message mem) limit)

end Frame

/-- Both directions of the channel: whatever messages are sent, cutting their stream gives one
payload for each message, in order, each is read as its message, and what stands behind the stream
is left as it is. -/
theorem messages_survive_streams {max : Nat} (limit : max ≤ Frame.lengthLimit) {rest : Bytes}
    (pending : Frame.split max rest = .incomplete) :
    (∀ messages : List AgentMessage, (∀ message ∈ messages, message.encode.length ≤ max) →
      ∃ written payloads, Frame.stream max AgentMessage.encode messages = .ok written ∧
        Frame.cut max (written ++ rest) = ⟨payloads, .incomplete, rest⟩ ∧
        payloads.map AgentMessage.decode = messages.map .ok) ∧
    (∀ messages : List HostMessage, (∀ message ∈ messages, message.encode.length ≤ max) →
      ∃ written payloads, Frame.stream max HostMessage.encode messages = .ok written ∧
        Frame.cut max (written ++ rest) = ⟨payloads, .incomplete, rest⟩ ∧
        payloads.map HostMessage.decode = messages.map .ok) := by
  have small {size : Nat} (short : size ≤ Frame.lengthLimit) : size < UInt64.size :=
    Nat.lt_of_le_of_lt short (by decide)
  constructor
  · intro messages fits
    exact Frame.cut_stream (fun message short => message.decode_encode (small short)) limit pending
      fits
  · intro messages fits
    exact Frame.cut_stream (fun message short => message.decode_encode (small short)) limit pending
      fits

/-- Absent fields, empty fields and an empty list of parameters, with half a header behind them. -/
theorem messages_survive_streams_sparse :
    (∃ written payloads,
      Frame.stream 16 AgentMessage.encode
        [.identity ⟨some "", none, some "7"⟩, .exec "" [], .exec "a" ["", "b"], .auditAck []] =
          .ok written ∧
        Frame.cut 16 (written ++ [0, 0]) = ⟨payloads, .incomplete, [0, 0]⟩ ∧
        payloads.map AgentMessage.decode =
          [.ok (.identity ⟨some "", none, some "7"⟩), .ok (.exec "" []), .ok (.exec "a" ["", "b"]),
            .ok (.auditAck [])]) ∧
    (∃ written payloads,
      Frame.stream 16 HostMessage.encode [.containerDns none, .containerName "", .auditNotify 300] =
          .ok written ∧
        Frame.cut 16 (written ++ [0, 0]) = ⟨payloads, .incomplete, [0, 0]⟩ ∧
        payloads.map HostMessage.decode =
          [.ok (.containerDns none), .ok (.containerName ""), .ok (.auditNotify 300)]) :=
  have both := @messages_survive_streams 16 (by decide) [0, 0] rfl
  ⟨both.1 [.identity ⟨some "", none, some "7"⟩, .exec "" [], .exec "a" ["", "b"], .auditAck []]
      (by decide +kernel),
    both.2 [.containerDns none, .containerName "", .auditNotify 300] (by decide +kernel)⟩

end ServiceChannel
