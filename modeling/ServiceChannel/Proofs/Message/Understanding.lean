import ServiceChannel.Message.Agent
import ServiceChannel.Proofs.Frame.Cut

/-!
# Understanding a stream

What a stream from an agent says when it is read in one piece: its payloads up to the first that
ends the connection, or up to a header that announces too much.

- `understand`: the stream in one piece.
- `understand_append`, `understand_append_of_fault`: a stream in two pieces.
-/

namespace ServiceChannel

/-- Why a payload ends its connection. A message does not, and neither does a payload that is
passed over. -/
def AgentMessage.fault? (payload : Bytes) : Option MessageError :=
  match AgentMessage.decode payload with
  | .ok _ => none
  | .error error => if error.isUnrecognized then none else some error

/-- Why the end of a cut ends the connection. -/
def Frame.Tail.fault? (max : Nat) : Frame.Tail → Option MessageError
  | .incomplete => none
  | .oversized size => some (.tooLarge size max)

/-- What a stream says: payloads, why they end the connection, if they do, and what is left. -/
structure Understanding where
  payloads : List Bytes
  fault : Option MessageError
  rest : Bytes

namespace Understanding

/-- Payloads up to and including the first that ends the connection. -/
def ofPayloads (fault : Option MessageError) (rest : Bytes) :
    (payloads : List Bytes) → Understanding
  | [] => ⟨[], fault, rest⟩
  | payload :: payloads =>
    match AgentMessage.fault? payload with
    | some error => ⟨[payload], some error, rest⟩
    | none =>
      let later := ofPayloads fault rest payloads
      { later with payloads := payload :: later.payloads }

variable {fault : Option MessageError} {rest : Bytes} {payloads : List Bytes}

theorem ofPayloads_of_sound (sound : ∀ payload ∈ payloads, AgentMessage.fault? payload = none) :
    ofPayloads fault rest payloads = ⟨payloads, fault, rest⟩ := by
  induction payloads with
  | nil => rfl
  | cons payload payloads ih =>
    rw [ofPayloads, sound payload (by simp), ih fun other mem => sound other (by simp [mem])]

theorem sound_of_fault_eq_none (none : (ofPayloads fault rest payloads).fault = none) :
    fault = .none ∧ ∀ payload ∈ payloads, AgentMessage.fault? payload = .none := by
  induction payloads with
  | nil => exact ⟨none, fun payload mem => absurd mem (by simp)⟩
  | cons payload payloads ih =>
    rw [ofPayloads] at none
    split at none
    · cases none
    · rename_i good
      obtain ⟨later, sound⟩ := ih none
      refine ⟨later, fun other mem => ?_⟩
      rcases List.mem_cons.1 mem with rfl | mem
      · exact good
      · exact sound other mem

theorem ofPayloads_append (more : List Bytes)
    (sound : ∀ payload ∈ payloads, AgentMessage.fault? payload = none) :
    ofPayloads fault rest (payloads ++ more) =
      { ofPayloads fault rest more with
        payloads := payloads ++ (ofPayloads fault rest more).payloads } := by
  induction payloads with
  | nil => rfl
  | cons payload payloads ih =>
    rw [List.cons_append, ofPayloads, sound payload (by simp),
      ih fun other mem => sound other (by simp [mem])]
    rfl

/-- Behind a payload that ends the connection, nothing matters. -/
theorem ofPayloads_append_of_fault {error : MessageError} (more : List Bytes)
    (other : Option MessageError) (left : Bytes)
    (faulty : (ofPayloads none rest payloads).fault = some error) :
    (ofPayloads other left (payloads ++ more)).payloads = (ofPayloads none rest payloads).payloads ∧
      (ofPayloads other left (payloads ++ more)).fault = some error := by
  induction payloads with
  | nil => cases faulty
  | cons payload payloads ih =>
    rw [ofPayloads] at faulty
    rw [List.cons_append, ofPayloads, ofPayloads]
    split at faulty
    · exact ⟨rfl, faulty⟩
    · obtain ⟨same, still⟩ := ih faulty
      exact ⟨congrArg (payload :: ·) same, still⟩

/-- What is left says nothing. -/
theorem ofPayloads_left (left : Bytes) :
    (ofPayloads fault left payloads).payloads = (ofPayloads fault rest payloads).payloads ∧
      (ofPayloads fault left payloads).fault = (ofPayloads fault rest payloads).fault := by
  induction payloads with
  | nil => exact ⟨rfl, rfl⟩
  | cons payload payloads ih =>
    rw [ofPayloads, ofPayloads]
    split
    · exact ⟨rfl, rfl⟩
    · exact ⟨congrArg (payload :: ·) ih.1, ih.2⟩

end Understanding

/-- What a stream says, read in one piece. -/
def understand (max : Nat) (stream : Bytes) : Understanding :=
  let cut := Frame.cut max stream
  .ofPayloads (cut.tail.fault? max) cut.rest cut.payloads

variable {max : Nat}

/-- Part of a frame says nothing, and is left. -/
theorem understand_of_incomplete {stream : Bytes}
    (unfinished : Frame.split max stream = .incomplete) :
    understand max stream = ⟨[], none, stream⟩ := by
  rw [understand, Frame.cut_of_incomplete unfinished]
  rfl

/-- A stream without a fault is cut to its end, and leaves part of a frame at most. -/
theorem understand_eq_of_fault_eq_none {stream : Bytes}
    (none : (understand max stream).fault = none) :
    (Frame.cut max stream).tail = .incomplete ∧
      (∀ payload ∈ (Frame.cut max stream).payloads, AgentMessage.fault? payload = .none) ∧
      understand max stream =
        ⟨(Frame.cut max stream).payloads, .none, (Frame.cut max stream).rest⟩ := by
  obtain ⟨noTail, sound⟩ := Understanding.sound_of_fault_eq_none none
  refine ⟨?_, sound, ?_⟩
  · cases tail : (Frame.cut max stream).tail with
    | incomplete => rfl
    | oversized size =>
      rw [tail] at noTail
      cases noTail
  · rw [understand, noTail]
    exact Understanding.ofPayloads_of_sound sound

/-- A stream that goes on: what was left is read together with what comes. -/
theorem understand_append {front : Bytes} (more : Bytes)
    (none : (understand max front).fault = none) :
    understand max (front ++ more) =
      let later := understand max ((understand max front).rest ++ more)
      { later with payloads := (understand max front).payloads ++ later.payloads } := by
  obtain ⟨tail, sound, whole⟩ := understand_eq_of_fault_eq_none none
  rw [whole, understand, Frame.cut_append more tail]
  exact Understanding.ofPayloads_append _ sound

/-- A stream that goes on after a fault says nothing more. -/
theorem understand_append_of_fault {front : Bytes} {error : MessageError} (more : Bytes)
    (faulty : (understand max front).fault = some error) :
    (understand max (front ++ more)).payloads = (understand max front).payloads ∧
      (understand max (front ++ more)).fault = some error := by
  cases tail : (Frame.cut max front).tail with
  | incomplete =>
    have early : understand max front =
        .ofPayloads .none (Frame.cut max front).rest (Frame.cut max front).payloads := by
      rw [understand, tail]
      rfl
    rw [early] at faulty ⊢
    rw [understand, Frame.cut_append more tail]
    exact Understanding.ofPayloads_append_of_fault _ _ _ faulty
  | oversized size =>
    have later : understand max (front ++ more) =
        .ofPayloads ((Frame.cut max front).tail.fault? max)
          ((Frame.cut max front).rest ++ more) (Frame.cut max front).payloads := by
      rw [understand, Frame.cut_append_of_oversized more tail]
    rw [later, ← faulty]
    exact Understanding.ofPayloads_left _

end ServiceChannel
