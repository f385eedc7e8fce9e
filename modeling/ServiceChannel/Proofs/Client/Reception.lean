import ServiceChannel.Client
import ServiceChannel.Proofs.Channel.Reading
import ServiceChannel.Proofs.Frame.Cut

/-!
# What a client receives

An agent asks for messages (`recv`) while bytes arrive in pieces of any size, and gives up whenever
it likes (`recv_timeout`). Whatever the order of these moments, the answers are those of the stream:
one for each frame, then the refusal of a header that announces too much, or the end.

- `Reception`: the agent's end of a connection, and the calls on it.
- `Client.due`: the answers of a stream, one after the other.
- `Reception.Follows`: what every moment keeps.
- `receptions_exact`: any moments, one after the other.
-/

namespace ServiceChannel

/-! ## Reading until a message is complete -/

namespace Client

/-- The end of a stream, for a read that comes to it. -/
def endingReads (ended : Bool) : List ReadOutcome := if ended then [.endOfStream] else []

theorem poll_of_incomplete {client : Client}
    (found : Frame.split maxMessageSize client.buffered = .incomplete) :
    client.poll = (none, client) := by
  rw [poll, found]

theorem receive_of_poll {client after : Client} {result : Result}
    (polled : client.poll = (some result, after)) (reads : List ReadOutcome) :
    client.receive reads = (some result, after, reads) := by
  unfold receive
  rw [polled]

theorem receive_data {client : Client}
    (found : Frame.split maxMessageSize client.buffered = .incomplete) (bytes : Bytes)
    (reads : List ReadOutcome) :
    client.receive (.data bytes :: reads) = receive ⟨client.buffered ++ bytes⟩ reads := by
  rw [receive, poll_of_incomplete found]

/-- A frame is handed out as soon as it is complete, and nothing of what follows it is lost. -/
theorem receive_of_complete {client : Client} {pieces : List Bytes} {payload rest : Bytes}
    (found : Frame.split maxMessageSize (client.buffered ++ pieces.flatten) =
      .complete payload rest) (later : List ReadOutcome) :
    ∃ (kept : Bytes) (unread : List Bytes), client.receive (pieces.map .data ++ later) =
        (some (decode payload), ⟨kept⟩, unread.map .data ++ later) ∧
      kept ++ unread.flatten = rest := by
  induction pieces generalizing client with
  | nil =>
    rw [List.flatten_nil, List.append_nil] at found
    have polled : client.poll = (some (decode payload), ⟨rest⟩) := by rw [poll, found]
    exact ⟨rest, [], receive_of_poll polled _, List.append_nil rest⟩
  | cons piece pieces ih =>
    cases front : Frame.split maxMessageSize client.buffered with
    | incomplete =>
      rw [List.flatten_cons, ← List.append_assoc] at found
      obtain ⟨kept, unread, received, same⟩ := @ih ⟨client.buffered ++ piece⟩ found
      exact ⟨kept, unread, (receive_data front piece _).trans received, same⟩
    | oversized size =>
      rw [Frame.split_append_of_oversized _ front] at found
      cases found
    | complete other kept =>
      rw [Frame.split_append_of_complete _ front] at found
      cases found
      have polled : client.poll = (some (decode payload), ⟨kept⟩) := by rw [poll, front]
      exact ⟨kept, piece :: pieces, receive_of_poll polled _, rfl⟩

/-- A header that announces too much is refused as soon as it is there, and stays. -/
theorem receive_of_oversized {client : Client} {pieces : List Bytes} {size : Nat}
    (found : Frame.split maxMessageSize (client.buffered ++ pieces.flatten) = .oversized size)
    (later : List ReadOutcome) :
    ∃ (kept : Bytes) (unread : List Bytes), client.receive (pieces.map .data ++ later) =
        (some (refuse size), ⟨kept⟩, unread.map .data ++ later) ∧
      kept ++ unread.flatten = client.buffered ++ pieces.flatten ∧
      Frame.split maxMessageSize kept = .oversized size := by
  induction pieces generalizing client with
  | nil =>
    rw [List.flatten_nil, List.append_nil] at found
    have polled : client.poll = (some (refuse size), client) := by rw [poll, found]
    exact ⟨client.buffered, [], receive_of_poll polled _, rfl, found⟩
  | cons piece pieces ih =>
    cases front : Frame.split maxMessageSize client.buffered with
    | incomplete =>
      rw [List.flatten_cons, ← List.append_assoc] at found ⊢
      obtain ⟨kept, unread, received, same⟩ := @ih ⟨client.buffered ++ piece⟩ found
      exact ⟨kept, unread, (receive_data front piece _).trans received, same⟩
    | oversized other =>
      rw [Frame.split_append_of_oversized _ front] at found
      cases found
      have polled : client.poll = (some (refuse size), client) := by rw [poll, front]
      exact ⟨client.buffered, piece :: pieces, receive_of_poll polled _, rfl, front⟩
    | complete payload rest =>
      rw [Frame.split_append_of_complete _ front] at found
      cases found

/-- Part of a frame is read to its last byte, and then the end, if it is there. -/
theorem receive_of_incomplete {client : Client} {pieces : List Bytes}
    (found : Frame.split maxMessageSize (client.buffered ++ pieces.flatten) = .incomplete)
    (ended : Bool) :
    client.receive (pieces.map .data ++ endingReads ended) =
      (if ended then some (.error .peerClosed) else none, ⟨client.buffered ++ pieces.flatten⟩,
        endingReads ended) := by
  induction pieces generalizing client with
  | nil =>
    rw [List.flatten_nil, List.append_nil] at found
    cases ended <;> simp [endingReads, receive, poll_of_incomplete found]
  | cons piece pieces ih =>
    have front : Frame.split maxMessageSize client.buffered = .incomplete := by
      cases front : Frame.split maxMessageSize client.buffered with
      | incomplete => rfl
      | oversized size =>
        rw [Frame.split_append_of_oversized _ front] at found
        cases found
      | complete payload rest =>
        rw [Frame.split_append_of_complete _ front] at found
        cases found
    rw [List.flatten_cons, ← List.append_assoc] at found ⊢
    exact (receive_data front piece _).trans (@ih ⟨client.buffered ++ piece⟩ found)

/-! ## What a stream gives -/

/-- What the front of some bytes gives when there is nothing more to read. -/
def answer (bytes : Bytes) (ended : Bool) : Option Result :=
  match Frame.split maxMessageSize bytes with
  | .complete payload _ => some (decode payload)
  | .oversized size => some (refuse size)
  | .incomplete => if ended then some (.error .peerClosed) else none

/-- The answers of a stream: the messages of its frames, then for ever the refusal of a header that
announces too much, or the end once it has come. -/
def due (stream : Bytes) (ended : Bool) (count : Nat) : Option Result :=
  let cut := Frame.cut maxMessageSize stream
  match cut.payloads[count]? with
  | some payload => some (decode payload)
  | none =>
    match cut.tail with
    | .oversized size => some (refuse size)
    | .incomplete => if ended then some (.error .peerClosed) else none

end Client

/-! ## Receptions -/

/-- The agent's end of a connection, and how the agent's calls for messages went. -/
structure Reception where
  client : Client := {}
  /-- What arrived and was not read. -/
  unread : Bytes := []
  /-- The host writes no more. -/
  ended : Bool := false
  /-- A call has not ended yet. -/
  waiting : Bool := false
  /-- How calls ended so far: with a result, or without one when their time was over. -/
  outcomes : List (Option Client.Result) := []

/-- Cuts bytes into pieces: `size + 1` bytes for each size, and all that is left. -/
def piecesOf : (sizes : List Nat) → Bytes → List Bytes
  | _, [] => []
  | [], bytes => [bytes]
  | size :: sizes, byte :: bytes => (byte :: bytes.take size) :: piecesOf sizes (bytes.drop size)

@[simp] theorem flatten_piecesOf (sizes : List Nat) (bytes : Bytes) :
    (piecesOf sizes bytes).flatten = bytes := by
  fun_induction piecesOf sizes bytes with
  | case1 => rfl
  | case2 => simp
  | case3 size sizes byte bytes ih => simp [ih]

namespace Reception

/-- What can happen at the agent's end. -/
inductive Moment where
  /-- Bytes arrive. -/
  | arrives (bytes : Bytes)
  /-- The host closes its end. -/
  | ends
  /-- The waiting call looks for a message, or a new call when none waits. It reads what arrived, in
  pieces of any size, until a message is complete or there is nothing left to read. -/
  | looks (sizes : List Nat)
  /-- The time of the waiting call is over. It has read all that it looked at, and nothing else. -/
  | expires

/-- A call looks for a message. -/
def look (reception : Reception) (sizes : List Nat) : Reception :=
  let reads := (piecesOf sizes reception.unread).map .data ++ Client.endingReads reception.ended
  match reception.client.receive reads with
  | (some result, client, left) =>
    { reception with
      client := client
      unread := left.flatMap ReadOutcome.bytes
      waiting := false
      outcomes := reception.outcomes ++ [some result] }
  | (none, client, left) =>
    { reception with
      client := client
      unread := left.flatMap ReadOutcome.bytes
      waiting := true }

/-- The reception after one more moment. Nothing arrives behind the end. -/
def step (reception : Reception) : Moment → Reception
  | .arrives bytes =>
    if reception.ended then reception else { reception with unread := reception.unread ++ bytes }
  | .ends => { reception with ended := true }
  | .looks sizes => reception.look sizes
  | .expires =>
    if reception.waiting then
      { reception with waiting := false, outcomes := reception.outcomes ++ [none] }
    else reception

/-- The reception after some moments. -/
def after (moments : List Moment) : Reception := moments.foldl step {}

/-- The results of the calls, without those that gave up. -/
def answers (reception : Reception) : List Client.Result := reception.outcomes.filterMap id

/-- What arrived and was not handed out. -/
def owed (reception : Reception) : Bytes := reception.client.buffered ++ reception.unread

/-- What has arrived, up to the end. -/
def arrived : List Moment → Bytes
  | [] => []
  | .arrives bytes :: moments => bytes ++ arrived moments
  | .ends :: _ => []
  | .looks _ :: moments | .expires :: moments => arrived moments

/-! ### One look -/

variable {reception : Reception}

theorem flatMap_bytes (unread : List Bytes) (ended : Bool) :
    (unread.map ReadOutcome.data ++ Client.endingReads ended).flatMap ReadOutcome.bytes =
      unread.flatten := by
  have data : (unread.map ReadOutcome.data).flatMap ReadOutcome.bytes = unread.flatten := by
    induction unread with
    | nil => rfl
    | cons piece unread ih => simp [ih, ReadOutcome.bytes]
  cases ended <;> simp [data, Client.endingReads, ReadOutcome.bytes]

theorem split_owed (sizes : List Nat) :
    Frame.split Client.maxMessageSize
        (reception.client.buffered ++ (piecesOf sizes reception.unread).flatten) =
      Frame.split Client.maxMessageSize reception.owed := by
  rw [flatten_piecesOf, owed]

theorem look_of_complete {payload rest : Bytes}
    (found : Frame.split Client.maxMessageSize reception.owed = .complete payload rest)
    (sizes : List Nat) :
    ∃ client unread, reception.look sizes =
        { reception with
          client := client
          unread := unread
          waiting := false
          outcomes := reception.outcomes ++ [some (Client.decode payload)] } ∧
      client.buffered ++ unread = rest := by
  rw [← split_owed sizes] at found
  obtain ⟨kept, unread, received, same⟩ :=
    Client.receive_of_complete found (Client.endingReads reception.ended)
  refine ⟨⟨kept⟩, unread.flatten, ?_, same⟩
  simp only [look, received, flatMap_bytes]

theorem look_of_oversized {size : Nat}
    (found : Frame.split Client.maxMessageSize reception.owed = .oversized size)
    (sizes : List Nat) :
    ∃ client unread, reception.look sizes =
        { reception with
          client := client
          unread := unread
          waiting := false
          outcomes := reception.outcomes ++ [some (Client.refuse size)] } ∧
      client.buffered ++ unread = reception.owed ∧
      Frame.split Client.maxMessageSize client.buffered = .oversized size := by
  rw [← split_owed sizes] at found
  obtain ⟨kept, unread, received, same, stays⟩ :=
    Client.receive_of_oversized found (Client.endingReads reception.ended)
  rw [flatten_piecesOf] at same
  refine ⟨⟨kept⟩, unread.flatten, ?_, same, stays⟩
  simp only [look, received, flatMap_bytes]

theorem look_of_incomplete
    (found : Frame.split Client.maxMessageSize reception.owed = .incomplete) (sizes : List Nat) :
    reception.look sizes =
      { reception with
        client := ⟨reception.owed⟩
        unread := []
        waiting := !reception.ended
        outcomes := reception.outcomes ++
          if reception.ended then [some (.error .peerClosed)] else [] } := by
  rw [← split_owed sizes] at found
  have received := Client.receive_of_incomplete found reception.ended
  have nothing := flatMap_bytes [] reception.ended
  rw [flatten_piecesOf] at received
  rw [look, received]
  cases ended : reception.ended <;> simp_all [owed]

theorem look_ended (sizes : List Nat) : (reception.look sizes).ended = reception.ended := by
  simp only [look]
  split <;> rfl

/-! ### What every moment keeps -/

/-- The result stands for good: it refuses a header that is at the front of the buffer, or tells of
the end behind which nothing is complete. -/
def Final (reception : Reception) (result : Client.Result) : Prop :=
  (∃ size, Frame.split Client.maxMessageSize reception.client.buffered = .oversized size ∧
    result = Client.refuse size) ∨
  (Frame.split Client.maxMessageSize reception.owed = .incomplete ∧ reception.ended = true ∧
    result = .error .peerClosed)

/-- The answers are those of the payloads in `given`, and after them only final ones. The stream is
the frames of these payloads, and what is owed. -/
structure Follows (reception : Reception) (stream : Bytes) (given : List Bytes)
    (last : List Client.Result) : Prop where
  stream_eq : stream = given.flatMap Frame.frame ++ reception.owed
  fits : ∀ payload ∈ given,
    payload.length ≤ Client.maxMessageSize ∧ payload.length ≤ Frame.lengthLimit
  answers_eq : reception.answers = given.map Client.decode ++ last
  final : ∀ result ∈ last, reception.Final result

variable {stream : Bytes} {given : List Bytes} {last : List Client.Result}

/-- A refused header at the front of the buffer is at the front of all that is owed. -/
theorem split_owed_of_front {size : Nat}
    (front : Frame.split Client.maxMessageSize reception.client.buffered = .oversized size) :
    Frame.split Client.maxMessageSize reception.owed = .oversized size :=
  Frame.split_append_of_oversized reception.unread front

/-- Behind a final result nothing is complete, and all that is still due is this result. -/
theorem Final.due_eq {result : Client.Result} (final : reception.Final result) :
    (Frame.cut Client.maxMessageSize reception.owed).payloads = [] ∧
      ∀ count, Client.due reception.owed reception.ended count = some result := by
  rcases final with ⟨size, front, rfl⟩ | ⟨pending, ended, rfl⟩
  · have cut := Frame.cut_of_oversized (split_owed_of_front front)
    exact ⟨by rw [cut], fun count => by rw [Client.due, cut]; rfl⟩
  · have cut := Frame.cut_of_incomplete pending
    exact ⟨by rw [cut], fun count => by rw [Client.due, cut, ended]; rfl⟩

namespace Follows

theorem cut_eq (follows : reception.Follows stream given last) :
    Frame.cut Client.maxMessageSize stream =
      { Frame.cut Client.maxMessageSize reception.owed with
        payloads := given ++ (Frame.cut Client.maxMessageSize reception.owed).payloads } := by
  rw [follows.stream_eq]
  exact Frame.cut_frames_append (fun payload mem => (follows.fits payload mem).1)
    (fun payload mem => (follows.fits payload mem).2) reception.owed

/-- Behind the payloads that were handed out, the answers of the stream are those of what is
owed. -/
theorem due_add (follows : reception.Follows stream given last) (count : Nat) :
    Client.due stream reception.ended (given.length + count) =
      Client.due reception.owed reception.ended count := by
  rw [Client.due, Client.due, follows.cut_eq, List.getElem?_append_right (Nat.le_add_right ..),
    Nat.add_sub_cancel_left]

theorem length_answers (follows : reception.Follows stream given last) :
    reception.answers.length = given.length + last.length := by
  rw [follows.answers_eq, List.length_append, List.length_map]

/-- Nothing final has been said while a frame is complete. -/
theorem last_eq_nil (follows : reception.Follows stream given last) {payload rest : Bytes}
    (found : Frame.split Client.maxMessageSize reception.owed = .complete payload rest) :
    last = [] := by
  refine List.eq_nil_iff_forall_not_mem.2 fun result mem => ?_
  have empty := (follows.final result mem).due_eq.1
  rw [Frame.cut_of_complete found] at empty
  cases empty

/-- The next answer of the stream is at the front of what is owed. -/
theorem due_next (follows : reception.Follows stream given last) :
    Client.due stream reception.ended reception.answers.length =
      Client.answer reception.owed reception.ended := by
  rw [follows.length_answers, follows.due_add, Client.due, Client.answer]
  cases found : Frame.split Client.maxMessageSize reception.owed with
  | incomplete => rw [Frame.cut_of_incomplete found]; rfl
  | oversized size => rw [Frame.cut_of_oversized found]; rfl
  | complete payload rest => rw [follows.last_eq_nil found, Frame.cut_of_complete found]; rfl

theorem due_of_answered (follows : reception.Follows stream given last) {count : Nat}
    {result : Client.Result} (answered : reception.answers[count]? = some result) :
    Client.due stream reception.ended count = some result := by
  rw [follows.answers_eq] at answered
  by_cases early : count < given.length
  · rw [List.getElem?_append_left (by simpa using early), List.getElem?_map] at answered
    obtain ⟨payload, found, rfl⟩ := Option.map_eq_some_iff.1 answered
    rw [Client.due, follows.cut_eq, List.getElem?_append_left early, found]
  · obtain ⟨more, rfl⟩ := Nat.exists_eq_add_of_le (Nat.le_of_not_lt early)
    rw [List.getElem?_append_right (by simp)] at answered
    rw [follows.due_add]
    exact (follows.final result (List.mem_of_getElem? answered)).due_eq.2 more

/-- What is owed is what the stream leaves behind the frames of the payloads that were handed
out. -/
theorem kept (follows : reception.Follows stream given last) :
    stream = ((Frame.cut Client.maxMessageSize stream).payloads.take
      reception.answers.length).flatMap Frame.frame ++ reception.owed := by
  have taken : (Frame.cut Client.maxMessageSize stream).payloads.take reception.answers.length =
      given := by
    rw [follows.cut_eq, follows.length_answers]
    cases last with
    | nil => simp
    | cons result last =>
      have empty := (follows.final result List.mem_cons_self).due_eq.1
      rw [empty, List.append_nil]
      exact List.take_of_length_le (Nat.le_add_right ..)
  rw [taken]
  exact follows.stream_eq

/-- When every frame was handed out, no frame is owed. -/
theorem payloads_owed (follows : reception.Follows stream given last)
    (all : (Frame.cut Client.maxMessageSize stream).payloads.length ≤ reception.answers.length) :
    (Frame.cut Client.maxMessageSize reception.owed).payloads = [] := by
  cases last with
  | nil =>
    rw [follows.cut_eq, follows.length_answers, List.length_append] at all
    exact List.eq_nil_of_length_eq_zero (Nat.le_zero.1 (Nat.le_of_add_le_add_left all))
  | cons result last => exact (follows.final result List.mem_cons_self).due_eq.1

theorem front_of_refused (follows : reception.Follows stream given last) {size : Nat}
    (stuck : (Frame.cut Client.maxMessageSize stream).tail = .oversized size)
    (beyond : (Frame.cut Client.maxMessageSize stream).payloads.length <
      reception.answers.length) :
    Frame.split Client.maxMessageSize reception.client.buffered = .oversized size := by
  rw [follows.cut_eq] at stuck beyond
  cases last with
  | nil =>
    rw [follows.length_answers, List.length_append] at beyond
    exact absurd (Nat.lt_of_add_lt_add_left beyond) (Nat.not_lt_zero _)
  | cons result last =>
    rcases follows.final result List.mem_cons_self with ⟨other, front, -⟩ | ⟨pending, -⟩
    · rw [Frame.cut_of_oversized (split_owed_of_front front)] at stuck
      cases stuck
      exact front
    · rw [Frame.cut_of_incomplete pending] at stuck
      cases stuck

theorem split_owed_of_pending (follows : reception.Follows stream given last)
    (pending : (Frame.cut Client.maxMessageSize stream).tail = .incomplete)
    (all : (Frame.cut Client.maxMessageSize stream).payloads.length ≤ reception.answers.length) :
    Frame.split Client.maxMessageSize reception.owed = .incomplete := by
  have empty := follows.payloads_owed all
  rw [follows.cut_eq] at pending
  cases found : Frame.split Client.maxMessageSize reception.owed with
  | incomplete => rfl
  | oversized size =>
    rw [Frame.cut_of_oversized found] at pending
    cases pending
  | complete payload rest =>
    rw [Frame.cut_of_complete found] at empty
    cases empty

/-! ### The moments -/

theorem start : ({} : Reception).Follows [] [] [] :=
  ⟨rfl, nofun, rfl, nofun⟩

theorem arrives (follows : reception.Follows stream given last) (goesOn : reception.ended = false)
    (bytes : Bytes) : (reception.step (.arrives bytes)).Follows (stream ++ bytes) given last := by
  rw [step, goesOn]
  refine ⟨?_, follows.fits, follows.answers_eq, fun result mem => ?_⟩
  · rw [follows.stream_eq]
    simp [owed]
  · rcases follows.final result mem with front | ⟨-, ended, -⟩
    · exact .inl front
    · rw [goesOn] at ended
      cases ended

theorem ends (follows : reception.Follows stream given last) :
    (reception.step .ends).Follows stream given last := by
  refine ⟨follows.stream_eq, follows.fits, follows.answers_eq, fun result mem => ?_⟩
  rcases follows.final result mem with front | ⟨pending, -, same⟩
  · exact .inl front
  · exact .inr ⟨pending, rfl, same⟩

theorem expires (follows : reception.Follows stream given last) :
    (reception.step .expires).Follows stream given last := by
  rw [step]
  split
  · refine ⟨follows.stream_eq, follows.fits, ?_, follows.final⟩
    rw [← follows.answers_eq]
    simp [answers]
  · exact follows

theorem looks (follows : reception.Follows stream given last) (sizes : List Nat) :
    ∃ given last, (reception.look sizes).Follows stream given last := by
  cases found : Frame.split Client.maxMessageSize reception.owed with
  | complete payload rest =>
    obtain ⟨client, unread, looked, left⟩ := look_of_complete found sizes
    obtain ⟨owed_eq, fits⟩ := Frame.split_eq_complete_iff.1 found
    refine ⟨given ++ [payload], [], ?_, ?_, ?_, nofun⟩
    · rw [follows.stream_eq, looked, owed_eq, List.flatMap_append, List.append_assoc]
      simp [owed, left]
    · intro other mem
      rcases List.mem_append.1 mem with mem | mem
      · exact follows.fits other mem
      · exact List.mem_singleton.1 mem ▸ fits
    · have before := follows.answers_eq
      rw [follows.last_eq_nil found] at before
      rw [looked]
      simp_all [answers]
  -- The header is left where it is, so that every look from here on is refused for it.
  | oversized size =>
    obtain ⟨client, unread, looked, left, front⟩ := look_of_oversized found sizes
    refine ⟨given, last ++ [Client.refuse size], ?_, follows.fits, ?_, ?_⟩
    · rw [looked]
      exact follows.stream_eq.trans (congrArg _ left.symm)
    · have before := follows.answers_eq
      rw [looked]
      simp_all [answers]
    · intro result mem
      rw [looked]
      refine .inl ⟨size, front, ?_⟩
      rcases List.mem_append.1 mem with mem | mem
      · obtain ⟨other, known, same⟩ | ⟨pending, -⟩ := follows.final result mem
        · rw [split_owed_of_front known] at found
          cases found
          exact same
        · rw [pending] at found
          cases found
      · exact List.mem_singleton.1 mem
  -- All that has arrived is read and no message is complete: the end is told, if it has come.
  | incomplete =>
    have looked := look_of_incomplete found sizes
    have left : (reception.look sizes).owed = reception.owed := by
      rw [looked]
      exact List.append_nil _
    refine ⟨given, last ++ if reception.ended then [.error .peerClosed] else [], ?_,
      follows.fits, ?_, ?_⟩
    · exact left ▸ follows.stream_eq
    · have before := follows.answers_eq
      rw [looked]
      cases reception.ended <;> simp_all [answers]
    · intro result mem
      refine .inr ⟨left ▸ found, ?_⟩
      rw [looked]
      rcases List.mem_append.1 mem with mem | mem
      · obtain ⟨size, known, -⟩ | ⟨-, final⟩ := follows.final result mem
        · rw [split_owed_of_front known] at found
          cases found
        · exact final
      · cases ended : reception.ended with
        | false => simp [ended] at mem
        | true => exact ⟨rfl, by simpa [ended] using mem⟩

/-- Any moments, one after the other. -/
theorem foldl (follows : reception.Follows stream given last) (moments : List Moment) :
    ∃ given last, (moments.foldl step reception).Follows
      (stream ++ if reception.ended then [] else Reception.arrived moments) given last := by
  induction moments generalizing reception stream given last with
  | nil => exact ⟨given, last, by simpa [Reception.arrived] using follows⟩
  | cons moment moments ih =>
    rw [List.foldl_cons]
    cases moment with
    | arrives bytes =>
      cases ended : reception.ended with
      | true =>
        have same : reception.step (.arrives bytes) = reception := by simp [step, ended]
        simpa [same, ended] using ih follows
      | false =>
        have goesOn : (reception.step (.arrives bytes)).ended = false := by simp [step, ended]
        simpa [goesOn, Reception.arrived] using ih (follows.arrives ended bytes)
    | ends => simpa [step, Reception.arrived] using ih follows.ends
    | looks sizes =>
      obtain ⟨given, last, looked⟩ := follows.looks sizes
      have later := ih looked
      rw [look_ended] at later
      exact later
    | expires =>
      have same : (reception.step .expires).ended = reception.ended := by
        rw [step]
        split <;> rfl
      simpa [same, Reception.arrived] using ih follows.expires

theorem after (moments : List Moment) :
    ∃ given last, (Reception.after moments).Follows (Reception.arrived moments) given last :=
  start.foldl moments

end Follows

/-! ### What stays for good -/

/-- A look ends its call with this result, or leaves it waiting. -/
def Gives (reception : Reception) (sizes : List Nat) : Option Client.Result → Prop
  | some result =>
    (reception.look sizes).outcomes = reception.outcomes ++ [some result] ∧
      (reception.look sizes).waiting = false
  | none =>
    (reception.look sizes).outcomes = reception.outcomes ∧ (reception.look sizes).waiting = true

theorem look_of_front {size : Nat}
    (front : Frame.split Client.maxMessageSize reception.client.buffered = .oversized size)
    (sizes : List Nat) :
    (reception.look sizes).client = reception.client ∧
      reception.Gives sizes (some (Client.refuse size)) := by
  have polled : reception.client.poll = (some (Client.refuse size), reception.client) := by
    rw [Client.poll, front]
  simp only [Gives, look, Client.receive_of_poll polled, and_self]

/-- A refused header stays at the front of the buffer, and nothing is read any more. -/
theorem client_of_front {size : Nat}
    (front : Frame.split Client.maxMessageSize reception.client.buffered = .oversized size)
    (moments : List Moment) : (moments.foldl step reception).client = reception.client := by
  induction moments generalizing reception with
  | nil => rfl
  | cons moment moments ih =>
    have same : (reception.step moment).client = reception.client := by
      cases moment with
      | arrives bytes =>
        rw [step]
        split <;> rfl
      | ends => rfl
      | looks sizes => exact (look_of_front front sizes).1
      | expires =>
        rw [step]
        split <;> rfl
    rw [List.foldl_cons, ih (same ▸ front), same]

/-- The stream has ended, and what is owed is part of a frame, or nothing. -/
structure AtEnd (reception : Reception) : Prop where
  ended : reception.ended = true
  pending : Frame.split Client.maxMessageSize reception.owed = .incomplete

theorem AtEnd.step (atEnd : reception.AtEnd) (moment : Moment) : (reception.step moment).AtEnd := by
  cases moment with
  | arrives bytes =>
    rw [Reception.step, if_pos atEnd.ended]
    exact atEnd
  | ends => exact ⟨rfl, atEnd.pending⟩
  | looks sizes =>
    have looked := look_of_incomplete atEnd.pending sizes
    refine ⟨(look_ended sizes).trans atEnd.ended, ?_⟩
    have left : (reception.look sizes).owed = reception.owed := by
      rw [looked]
      exact List.append_nil _
    exact left ▸ atEnd.pending
  | expires =>
    rw [Reception.step]
    split
    · exact ⟨atEnd.ended, atEnd.pending⟩
    · exact atEnd

theorem AtEnd.foldl (atEnd : reception.AtEnd) (moments : List Moment) :
    (moments.foldl Reception.step reception).AtEnd := by
  induction moments generalizing reception with
  | nil => exact atEnd
  | cons moment moments ih => exact ih (atEnd.step moment)

/-! ## All receptions -/

theorem gives_answer (reception : Reception) (sizes : List Nat) :
    reception.Gives sizes (Client.answer reception.owed reception.ended) := by
  cases found : Frame.split Client.maxMessageSize reception.owed with
  | complete payload rest =>
    obtain ⟨client, unread, looked, -⟩ := look_of_complete found sizes
    rw [Client.answer, found]
    exact ⟨by rw [looked], by rw [looked]⟩
  | oversized size =>
    obtain ⟨client, unread, looked, -⟩ := look_of_oversized found sizes
    rw [Client.answer, found]
    exact ⟨by rw [looked], by rw [looked]⟩
  | incomplete =>
    have looked := look_of_incomplete found sizes
    rw [Client.answer, found]
    cases ended : reception.ended with
    | false => exact ⟨by rw [looked]; simp [ended], by rw [looked]; simp [ended]⟩
    | true => exact ⟨by rw [looked]; simp [ended], by rw [looked]; simp [ended]⟩

/-- After these moments nothing was lost and nothing was handed out twice. -/
structure Exact (moments : List Moment) : Prop where
  /-- The answers so far are those of the stream, in its order. -/
  answered : ∀ (count : Nat) (result : Client.Result),
    (after moments).answers[count]? = some result →
    Client.due (arrived moments) (after moments).ended count = some result
  /-- The next look gives the next answer of the stream, and waits only while there is none. -/
  next : ∀ sizes, (after moments).Gives sizes
    (Client.due (arrived moments) (after moments).ended (after moments).answers.length)
  /-- What was not handed out is in the buffer, or can still be read. -/
  kept : arrived moments = ((Frame.cut Client.maxMessageSize (arrived moments)).payloads.take
    (after moments).answers.length).flatMap Frame.frame ++
      ((after moments).client.buffered ++ (after moments).unread)
  /-- A header that was refused is at the front of the buffer. -/
  refused : ∀ size, (Frame.cut Client.maxMessageSize (arrived moments)).tail = .oversized size →
    (Frame.cut Client.maxMessageSize (arrived moments)).payloads.length <
      (after moments).answers.length →
    Frame.split Client.maxMessageSize (after moments).client.buffered = .oversized size
  /-- Once there, it is refused again and again, and the buffer stays as it is. -/
  refusing : ∀ size,
    Frame.split Client.maxMessageSize (after moments).client.buffered = .oversized size →
    ∀ later sizes, (after (moments ++ later)).client = (after moments).client ∧
      ((after (moments ++ later)).look sizes).client = (after moments).client ∧
      (after (moments ++ later)).Gives sizes (some (Client.refuse size))
  /-- Once the stream has ended, and its frames were handed out, every call tells of the end. -/
  closed : (after moments).ended = true →
    (Frame.cut Client.maxMessageSize (arrived moments)).tail = .incomplete →
    (Frame.cut Client.maxMessageSize (arrived moments)).payloads.length ≤
      (after moments).answers.length →
    ∀ later sizes, (after (moments ++ later)).Gives sizes (some (.error .peerClosed))

end Reception

/-- In whatever order bytes arrive, calls look for messages, and calls give up: the results are the
stream's, one for each frame. -/
theorem receptions_exact (moments : List Reception.Moment) : Reception.Exact moments where
  answered count result answered := by
    obtain ⟨given, last, follows⟩ := Reception.Follows.after moments
    exact follows.due_of_answered answered
  next sizes := by
    obtain ⟨given, last, follows⟩ := Reception.Follows.after moments
    rw [follows.due_next]
    exact Reception.gives_answer _ sizes
  kept := by
    obtain ⟨given, last, follows⟩ := Reception.Follows.after moments
    exact follows.kept
  refused size stuck beyond := by
    obtain ⟨given, last, follows⟩ := Reception.Follows.after moments
    exact follows.front_of_refused stuck beyond
  refusing size front later sizes := by
    have same : (Reception.after (moments ++ later)).client = (Reception.after moments).client := by
      rw [Reception.after, List.foldl_append]
      exact Reception.client_of_front front later
    obtain ⟨looked, gives⟩ := Reception.look_of_front (same ▸ front) sizes
    exact ⟨same, looked.trans same, gives⟩
  closed ended pending all later sizes := by
    obtain ⟨given, last, follows⟩ := Reception.Follows.after moments
    have atEnd : (Reception.after (moments ++ later)).AtEnd := by
      rw [Reception.after, List.foldl_append]
      exact Reception.AtEnd.foldl ⟨ended, follows.split_owed_of_pending pending all⟩ later
    have gives := Reception.gives_answer (Reception.after (moments ++ later)) sizes
    rwa [Client.answer, atEnd.pending, atEnd.ended] at gives

end ServiceChannel
