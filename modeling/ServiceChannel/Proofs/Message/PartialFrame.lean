import ServiceChannel.Proofs.Message.RoundTrip

/-!
# Streams with part of a frame in them

What an agent makes of a stream of frames when part of a frame stands in it. The rest of such a
frame is taken from whatever follows it.

- `inStep_framed`: behind whole frames, everything is read as it was sent.
- `exists_misread`: behind part of a frame, some message is not.
- `not_inStep_of_part`: so an agent never gets over part of a frame.
-/

namespace ServiceChannel

/-! ## What the agent reads -/

/-- The messages in a stream, by the frames that are complete. -/
def received (limit : Nat) (stream : Bytes) : List (Except MessageError HostMessage) :=
  (Frame.cut limit stream).payloads.map HostMessage.decode

/-- The frames of some messages, one behind the other. -/
def framed (messages : List HostMessage) : Bytes :=
  messages.flatMap fun message => Frame.frame message.encode

/-- The agent is in step: it has read the messages sent so far from the stream, and it would read
whatever was sent next. Behind part of a frame it may have read all messages as well, by accident or
because nothing followed yet. -/
def InStep (limit max : Nat) (stream : Bytes) (sent : List HostMessage) : Prop :=
  ∀ next : List HostMessage, (∀ message ∈ next, message.encode.length ≤ max) →
    received limit (stream ++ framed next) = (sent ++ next).map .ok

theorem framed_append (first second : List HostMessage) :
    framed (first ++ second) = framed first ++ framed second := List.flatMap_append

theorem received_nil (limit : Nat) : received limit [] = [] := by
  rw [received, Frame.cut_nil]
  rfl

theorem received_frame_append {limit : Nat} {payload : Bytes} (fits : payload.length ≤ limit)
    (short : payload.length ≤ Frame.lengthLimit) (rest : Bytes) :
    received limit (Frame.frame payload ++ rest) =
      HostMessage.decode payload :: received limit rest := by
  unfold received
  rw [Frame.cut_of_complete (Frame.split_frame rest fits short)]
  rfl

theorem received_framed_append {limit max : Nat} (bound : max ≤ limit)
    (small : max ≤ Frame.lengthLimit) {messages : List HostMessage}
    (fits : ∀ message ∈ messages, message.encode.length ≤ max) (rest : Bytes) :
    received limit (framed messages ++ rest) = messages.map .ok ++ received limit rest := by
  induction messages with
  | nil => rfl
  | cons message messages ih =>
    have first := fits message (by simp)
    have later := ih fun other mem => fits other (by simp [mem])
    have short := Nat.le_trans first small
    have read := message.decode_encode (Nat.lt_of_le_of_lt short (by decide))
    unfold framed at later ⊢
    rw [List.flatMap_cons, List.append_assoc,
      received_frame_append (Nat.le_trans first bound) short, later, read]
    rfl

theorem inStep_framed {limit max : Nat} (bound : max ≤ limit) (small : max ≤ Frame.lengthLimit)
    {sent : List HostMessage} (fits : ∀ message ∈ sent, message.encode.length ≤ max) :
    InStep limit max (framed sent) sent := by
  intro next nextFits
  have both : ∀ message ∈ sent ++ next, message.encode.length ≤ max :=
    List.forall_mem_append.2 ⟨fits, nextFits⟩
  have whole := received_framed_append bound small both []
  rw [List.append_nil, received_nil, List.append_nil] at whole
  rw [← framed_append, whole]

/-! ## Part of a frame -/

theorem two_le_length_encode (message : HostMessage) : 2 ≤ message.encode.length := by
  have code : 2 ≤ (HostField.code message.code.number).write.length := by
    cases message.code <;> decide +kernel
  have front : HostField.code message.code.number ∈ message.toFields.toList := by
    cases message <;> simp [HostMessage.toFields, HostFields.toList]
  exact Nat.le_trans code (Wire.length_write_le front)

/-- A header that announces nothing, or more than is there, is not the header of one message. -/
theorem received_ne_of_header {limit : Nat} {a b c d : UInt8} {rest : Bytes}
    (odd : Bytes.toNat [a, b, c, d] = 0 ∨ rest.length < Bytes.toNat [a, b, c, d])
    (message : HostMessage) : received limit (a :: b :: c :: d :: rest) ≠ [.ok message] := by
  intro read
  cases found : Frame.split limit (a :: b :: c :: d :: rest) with
  | incomplete =>
    rw [received, Frame.cut_of_incomplete found] at read
    cases read
  | oversized size =>
    rw [received, Frame.cut_of_oversized found] at read
    cases read
  | complete payload behind =>
    rw [received, Frame.cut_of_complete found] at read
    obtain ⟨same, -, short⟩ := Frame.split_eq_complete_iff.1 found
    obtain ⟨a', b', c', d', spelled, size⟩ := Frame.frame_eq_cons payload short
    rw [spelled] at same
    obtain ⟨rfl, rfl, rfl, rfl, rfl⟩ : a = a' ∧ b = b' ∧ c = c' ∧ d = d' ∧
        rest = payload ++ behind := by
      simpa using same
    rw [size, List.length_append] at odd
    have empty : payload = [] := List.eq_nil_of_length_eq_zero (by omega)
    rw [empty] at read
    have nothing : HostMessage.decode [] = .ok message := (List.cons.inj read).1
    rw [HostMessage.decode, HostFields.decode, Wire.Schema.decode_nil] at nothing
    cases nothing

/-- Whatever follows part of a frame is taken for the rest of its payload. -/
theorem take_frame_append {payload more : Bytes} {count missing : Nat}
    (header : Frame.headerLength ≤ count)
    (whole : count + missing = (Frame.frame payload).length) (enough : missing ≤ more.length) :
    (Frame.frame payload).take count ++ more =
      Frame.frame (payload.take (count - Frame.headerLength) ++ more.take missing) ++
        more.drop missing := by
  rw [Frame.length_frame] at whole
  have size : (payload.take (count - Frame.headerLength) ++ more.take missing).length =
      payload.length := by
    rw [List.length_append, List.length_take, List.length_take]
    omega
  unfold Frame.frame
  rw [size, List.take_append, Bytes.length_bigEndian,
    List.take_of_length_le (by rw [Bytes.length_bigEndian]; exact header)]
  simp only [List.append_assoc, List.take_append_drop]

/-- Two messages whose frames begin alike cannot both be read behind the same part of a frame, when
that part lacks no more than what they share. -/
theorem eq_of_read_alike {limit : Nat} {payload : Bytes} (fits : payload.length ≤ limit)
    (short : payload.length ≤ Frame.lengthLimit) {count missing : Nat}
    (header : Frame.headerLength ≤ count)
    (whole : count + missing = (Frame.frame payload).length) (shared : Nat) (few : missing ≤ shared)
    {first second : HostMessage}
    (alike : (Frame.frame first.encode).take shared = (Frame.frame second.encode).take shared)
    (firstLong : shared ≤ (Frame.frame first.encode).length)
    (secondLong : shared ≤ (Frame.frame second.encode).length)
    (readFirst : received limit ((Frame.frame payload).take count ++ Frame.frame first.encode) =
      [.ok first])
    (readSecond : received limit ((Frame.frame payload).take count ++ Frame.frame second.encode) =
      [.ok second]) : first = second := by
  have same : (Frame.frame first.encode).take missing =
      (Frame.frame second.encode).take missing := by
    have cut := congrArg (List.take missing) alike
    simpa only [List.take_take, Nat.min_eq_left few] using cut
  have size : (payload.take (count - Frame.headerLength) ++
      (Frame.frame first.encode).take missing).length = payload.length := by
    rw [Frame.length_frame] at whole
    rw [List.length_append, List.length_take, List.length_take]
    omega
  rw [← size] at fits short
  rw [take_frame_append header whole (by omega), received_frame_append fits short] at readFirst
  rw [take_frame_append header whole (by omega), ← same, received_frame_append fits short]
    at readSecond
  have read := (List.cons.inj readFirst).1.symm.trans (List.cons.inj readSecond).1
  exact Except.ok.inj read

/-- Behind part of a header, the zeros that a short frame begins with are read as the rest of it. -/
theorem misread_of_header {limit : Nat} {payload : Bytes}
    (short : payload.length ≤ Frame.lengthLimit) {count : Nat} (begun : 0 < count)
    (part : count < Frame.headerLength) :
    received limit ((Frame.frame payload).take count ++ Frame.frame HostMessage.shutdown.encode) ≠
      [.ok .shutdown] := by
  have next : Frame.frame HostMessage.shutdown.encode = [0, 0, 0, 2, 8, 1] := by decide +kernel
  obtain ⟨a, b, c, d, spelled, -⟩ := Frame.frame_eq_cons payload short
  rw [spelled, next]
  unfold Frame.headerLength at part
  obtain rfl | rfl | rfl : count = 1 ∨ count = 2 ∨ count = 3 := by omega
  · refine received_ne_of_header ?_ _
    simp [Bytes.toNat]
    omega
  · refine received_ne_of_header ?_ _
    simp [Bytes.toNat]
    omega
  · refine received_ne_of_header ?_ _
    simp [Bytes.toNat]
    omega

/-- A frame that lacks more than the next message brings is not complete yet. -/
theorem misread_of_long {limit : Nat} {payload : Bytes}
    (short : payload.length ≤ Frame.lengthLimit) {count : Nat} (header : Frame.headerLength ≤ count)
    {next : HostMessage}
    (long : count + (Frame.frame next.encode).length < (Frame.frame payload).length) :
    received limit ((Frame.frame payload).take count ++ Frame.frame next.encode) ≠ [.ok next] := by
  obtain ⟨a, b, c, d, spelled, size⟩ := Frame.frame_eq_cons payload short
  obtain ⟨more, rfl⟩ := Nat.exists_eq_add_of_le' header
  rw [Frame.length_frame payload] at long
  have behind : (payload.take more ++ Frame.frame next.encode).length < payload.length := by
    rw [List.length_append, List.length_take]
    omega
  rw [← size] at behind
  rw [spelled]
  exact received_ne_of_header (Or.inr behind) next

/-- Behind part of a frame, some message is not read as it was sent. -/
theorem exists_misread {limit max : Nat} (bound : max ≤ limit) (small : max ≤ Frame.lengthLimit)
    {payload : Bytes} (long : 2 ≤ payload.length) (fits : payload.length ≤ max) {count : Nat}
    (begun : 0 < count) (part : count < (Frame.frame payload).length) :
    ∃ next : HostMessage, next.encode.length ≤ max ∧
      received limit ((Frame.frame payload).take count ++ Frame.frame next.encode) ≠
        [.ok next] := by
  have short := Nat.le_trans fits small
  have fitsLimit := Nat.le_trans fits bound
  have plain : HostMessage.shutdown.encode.length = 2 ∧ HostMessage.suspend.encode.length = 2 := by
    decide +kernel
  have change (connectivity : Connectivity) :
      (HostMessage.connectivityChange connectivity).encode.length = 4 := by
    cases connectivity <;> decide +kernel
  by_cases header : count < Frame.headerLength
  · exact ⟨.shutdown, by omega, misread_of_header short begun header⟩
  have header := Nat.le_of_not_lt header
  obtain ⟨missing, whole⟩ := Nat.exists_eq_add_of_le (Nat.le_of_lt part)
  have length := Frame.length_frame payload
  have room : count + missing = Frame.headerLength + payload.length := by omega
  apply Classical.byContradiction
  intro none
  have all (next : HostMessage) (nextFits : next.encode.length ≤ max) :
      received limit ((Frame.frame payload).take count ++ Frame.frame next.encode) = [.ok next] :=
    Classical.byContradiction fun wrong => none ⟨next, nextFits, wrong⟩
  have readShutdown := all .shutdown (by omega)
  rcases Nat.lt_trichotomy missing 6 with few | exact | many
  · -- The frames of two commands differ in their last byte only.
    have readSuspend := all .suspend (by omega)
    have same := eq_of_read_alike fitsLimit short header whole.symm 5 (by omega) (by decide +kernel)
      (by decide +kernel) (by decide +kernel) readShutdown readSuspend
    cases same
  · -- So do the frames of two changes of connectivity, which are longer.
    have readOffline := all (.connectivityChange .offline) (by rw [change]; omega)
    have readMobile := all (.connectivityChange .mobileOnly) (by rw [change]; omega)
    have same := eq_of_read_alike fitsLimit short header whole.symm 7 (by omega) (by decide +kernel)
      (by decide +kernel) (by decide +kernel) readOffline readMobile
    cases same
  · -- More is missing than the next frame has, so that it is swallowed whole.
    have four : Frame.headerLength = 4 := rfl
    refine misread_of_long short header ?_ readShutdown
    rw [Frame.length_frame HostMessage.shutdown.encode, plain.1]
    omega

/-- Part of a frame behind whole frames puts the agent out of step. -/
theorem not_inStep_of_part {limit max : Nat} (bound : max ≤ limit) (small : max ≤ Frame.lengthLimit)
    {sent : List HostMessage} (sentFits : ∀ message ∈ sent, message.encode.length ≤ max)
    {message : HostMessage} (fits : message.encode.length ≤ max) {count : Nat} (begun : 0 < count)
    (part : count < (Frame.frame message.encode).length) :
    ¬ InStep limit max (framed sent ++ (Frame.frame message.encode).take count) sent := by
  intro inStep
  obtain ⟨next, nextFits, wrong⟩ :=
    exists_misread bound small (two_le_length_encode message) fits begun part
  have read := inStep [next] (by simpa using nextFits)
  rw [List.append_assoc, received_framed_append bound small sentFits, List.map_append] at read
  refine wrong ?_
  simpa [framed] using read

end ServiceChannel
