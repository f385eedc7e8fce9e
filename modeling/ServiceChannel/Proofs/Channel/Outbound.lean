import Mathlib
import ServiceChannel.Proofs.Channel.Run
import ServiceChannel.Proofs.Kernel.Script
import ServiceChannel.Proofs.Kernel.Tapped
import ServiceChannel.Proofs.Message.PartialFrame

/-!
# The stream to the agent

What the sends of an engine leave on its connection, whatever the kernel answers. A send that fails
before its first byte does no harm. One that fails in the middle of a frame leaves the front of that
frame on a connection that stays open, and the next message is read as the rest of it.

- `post_posted`: what one send leaves on the connection.
- `inStep_iff_untorn`: the agent stays in step exactly as long as no send fails in the middle.
-/

namespace ServiceChannel

/-! ## Sends -/

/-- A sending operation of the engine. An audit record is a message that was encoded before. -/
inductive Posting where
  | command (command : Command)
  | name
  | dns
  | connectivity (connectivity : Connectivity)
  | record (message : HostMessage)
  | storage (remaining : UInt64)
  deriving DecidableEq

namespace Posting

/-- The operation. -/
def call : Posting → EngineCall
  | .command plain => .command plain
  | .name => .sendName
  | .dns => .sendDns
  | .connectivity uplinks => .sendConnectivity uplinks
  | .record message => .sendRecord message.encode
  | .storage remaining => .notifyStorage remaining

/-- The message that the operation sends. -/
def message? (container : Option Container) : Posting → Option HostMessage
  | .command plain => plain.message?
  | .name => container.map fun container => .containerName container.name
  | .dns => container.map fun container => .containerDns container.dnsServer
  | .connectivity uplinks => some (.connectivityChange uplinks)
  | .record message => some message
  | .storage remaining => some (.auditNotify remaining)

end Posting

/-- What one send leaves behind what was written before it: the frame of the message that it says it
sent, or else nothing, or else part of a frame. -/
inductive Posted (max : Nat) (written : Bytes) : Option HostMessage → Bytes → Prop where
  | sent {message : HostMessage} (fits : message.encode.length ≤ max) :
    Posted max written (some message) (written ++ Frame.frame message.encode)
  | unsent : Posted max written none written
  | torn {message : HostMessage} {count : Nat} (fits : message.encode.length ≤ max)
    (begun : 0 < count) (part : count < (Frame.frame message.encode).length) :
    Posted max written none (written ++ (Frame.frame message.encode).take count)

namespace Channel

/-- The message that an operation sent, when its answer says that it was sent. -/
def sentBy (answer : Answer) (message : Option HostMessage) : Option HostMessage :=
  match answer with
  | .delivery .sent => message
  | _ => none

variable {κ : Type} [Kernel κ]

/-- Runs a send, and gives the message that it says it sent. -/
def post (channel : Channel κ) (posting : Posting) : Option HostMessage × Channel κ :=
  let (answer, after) := channel.call posting.call
  (sentBy answer (posting.message? channel.container), after)

/-- Runs sends one after the other, and gives the messages that they say they sent. -/
def postAll (channel : Channel κ) : List Posting → List HostMessage × Channel κ
  | [] => ([], channel)
  | posting :: postings =>
    let (sent, after) := channel.post posting
    let (later, last) := after.postAll postings
    (sent.toList ++ later, last)

theorem occupancy_post (channel : Channel κ) (posting : Posting) :
    (channel.post posting).2.occupancy = channel.occupancy := by
  have sends : ¬ (posting.call = .cleanup ∨ posting.call = .release) := by
    cases posting <;> simp [Posting.call]
  exact (occupancy_call channel posting.call).trans (if_neg sends)

/-- However the kernel answers, sending a message leaves its frame, nothing or part of the frame. -/
theorem sendMessage_posted {channel : Channel (Tapped κ)} {connection : Connection}
    (current : channel.engine.connection = some connection) (message : HostMessage) :
    Posted channel.engine.config.maxMessageSize (channel.kernel.written connection.socket)
      (sentBy (.ofDelivery (channel.sendMessage message).1) (some message))
      ((channel.sendMessage message).2.kernel.written connection.socket) := by
  unfold sendMessage
  by_cases fits : message.encode.length ≤ channel.engine.config.maxMessageSize
  · obtain ⟨count, written, whole⟩ :=
      sendAll_written channel.kernel connection.socket (Frame.frame message.encode)
    rw [sendPayload_of_connected fits current]
    cases sent : sendAll channel.kernel connection.socket (Frame.frame message.encode) with
    | mk result kernel =>
      rw [sent] at written whole
      dsimp only at written whole
      cases result with
      | ok _ =>
        have posted := @Posted.sent _ (channel.kernel.written connection.socket) message fits
        rw [List.take_of_length_le (whole.1 rfl)] at written
        rw [← written] at posted
        exact posted
      | error error =>
        have part : count < (Frame.frame message.encode).length := by
          refine Nat.lt_of_not_le fun all => ?_
          cases whole.2 all
        have posted : Posted channel.engine.config.maxMessageSize
            (channel.kernel.written connection.socket) none
            (kernel.written connection.socket) := by
          rw [written]
          rcases Nat.eq_zero_or_pos count with rfl | begun
          · rw [List.take_zero, List.append_nil]
            exact .unsent
          · exact .torn fits begun part
        exact posted
  · rw [sendPayload_of_oversized (Nat.lt_of_not_le fits)]
    exact .unsent

theorem post_posted {channel : Channel (Tapped κ)} {connection : Connection}
    (current : channel.engine.connection = some connection) (posting : Posting) :
    Posted channel.engine.config.maxMessageSize (channel.kernel.written connection.socket)
      (channel.post posting).1 ((channel.post posting).2.kernel.written connection.socket) := by
  unfold post call
  cases posting with
  | command plain =>
    have posted := @sendMessage_posted κ _ (channel.record (.sendingCommand plain)) _ current
    have current : (channel.record (.sendingCommand plain)).engine.connection = some connection :=
      current
    dsimp only [Posting.call, Posting.message?]
    unfold sendCommand
    dsimp only
    rw [current]
    dsimp only
    cases plain.message? with
    | none => exact .unsent
    | some message =>
      have posted := posted message
      dsimp only
      split <;> rename_i sent <;> rw [sent] at posted <;> exact posted
  | name =>
    dsimp only [Posting.call, Posting.message?]
    unfold sendName
    cases channel.container with
    | none => exact .unsent
    | some container =>
      exact @sendMessage_posted κ _ (channel.record (.sendingName container.name)) _ current _
  | dns =>
    dsimp only [Posting.call, Posting.message?]
    unfold sendDns
    cases channel.container with
    | none => exact .unsent
    | some container =>
      exact @sendMessage_posted κ _ (channel.record (.sendingDns container.dnsServer)) _ current _
  | connectivity uplinks =>
    have posted := @sendMessage_posted κ _ (channel.record (.sendingConnectivity uplinks)) _ current
      (.connectivityChange uplinks)
    dsimp only [Posting.call, Posting.message?]
    unfold sendConnectivity
    split <;> rename_i sent <;> rw [sent] at posted <;> exact posted
  | record message =>
    have posted := @sendMessage_posted κ _
      (channel.record (.sendingRecord message.encode.length)) _ current message
    unfold sendMessage at posted
    dsimp only [Posting.call, Posting.message?]
    unfold sendRecord
    split <;> rename_i sent <;> rw [sent] at posted <;> exact posted
  | storage remaining =>
    exact @sendMessage_posted κ _ (channel.record (.notifyingStorage remaining)) _ current _

/-! ## Staying in step -/

/-- Every send says that it sent its message, or leaves nothing on the socket. -/
def Untorn (socket : Handle) (channel : Channel (Tapped κ)) : List Posting → Prop
  | [] => True
  | posting :: postings =>
    ((channel.post posting).1.isSome = true ∨
      (channel.post posting).2.kernel.written socket = channel.kernel.written socket) ∧
    Untorn socket (channel.post posting).2 postings

/-- Every moment of a run of sends is its beginning or a moment of what follows its first send. -/
theorem forall_prefix_cons {Item : Type} {item : Item} {items : List Item}
    {motive : List Item → Prop} :
    (∀ before, before <+: item :: items → motive before) ↔
      motive [] ∧ ∀ before, before <+: items → motive (item :: before) := by
  constructor
  · intro all
    refine ⟨all [] List.nil_prefix, fun before front => all _ ?_⟩
    exact (List.cons_prefix_cons).2 ⟨rfl, front⟩
  · rintro ⟨first, later⟩ before front
    rcases List.prefix_cons_iff.1 front with rfl | ⟨rest, rfl, within⟩
    · exact first
    · exact later rest within

/-- The step from one send to the next: as long as whole frames were written, the run is untorn
exactly when the agent is in step at every moment of it. -/
theorem inStep_iff_untorn_of_framed {limit max : Nat} (bound : max ≤ limit)
    (small : max ≤ Frame.lengthLimit) {channel : Channel (Tapped κ)} {connection : Connection}
    (size : channel.engine.config.maxMessageSize = max)
    (current : channel.engine.connection = some connection) {sent : List HostMessage}
    (fits : ∀ message ∈ sent, message.encode.length ≤ max)
    (written : channel.kernel.written connection.socket = framed sent) (postings : List Posting) :
    Untorn connection.socket channel postings ↔ ∀ before, before <+: postings →
      InStep limit max ((channel.postAll before).2.kernel.written connection.socket)
        (sent ++ (channel.postAll before).1) := by
  induction postings generalizing channel sent with
  | nil =>
    have inStep := inStep_framed bound small fits
    rw [← written] at inStep
    refine ⟨fun _ before front => ?_, fun _ => trivial⟩
    rw [List.prefix_nil.1 front, postAll, List.append_nil]
    exact inStep
  | cons posting postings ih =>
    have inStep := inStep_framed bound small fits
    rw [← written] at inStep
    have posted := post_posted current posting
    rw [size, written] at posted
    have kept := occupancy_post channel posting
    have nextSize := (congrArg (·.config.maxMessageSize) kept).trans size
    have nextCurrent := (congrArg Occupancy.connection kept).trans current
    rw [forall_prefix_cons, Untorn, written]
    simp only [postAll]
    generalize before : (channel.post posting).1 = outcome at posted ⊢
    generalize left : (channel.post posting).2.kernel.written connection.socket = stream at posted ⊢
    cases posted with
    -- A frame that is written whole keeps the agent in step, and so does one that is not begun.
    | @sent message messageFits =>
      have now : framed sent ++ Frame.frame message.encode = framed (sent ++ [message]) := by
        rw [framed_append]
        simp [framed]
      have nextFits : ∀ other ∈ sent ++ [message], other.encode.length ≤ max :=
        List.forall_mem_append.2 ⟨fits, by simpa using messageFits⟩
      rw [ih nextSize nextCurrent nextFits (left.trans now)]
      simp [inStep]
    | unsent =>
      rw [ih nextSize nextCurrent fits left]
      simp [inStep]
    -- Part of a frame puts it out of step for good: whatever is sent next is misread.
    | @torn message count messageFits begun part =>
      constructor
      · rintro ⟨sent | kept, -⟩
        · cases sent
        · have length := congrArg List.length (List.append_right_eq_self.1 kept)
          rw [List.length_take, List.length_nil] at length
          omega
      · rintro ⟨-, later⟩
        have now := later [] List.nil_prefix
        rw [postAll, left, Option.toList_none, List.append_nil, List.append_nil] at now
        exact absurd now (not_inStep_of_part bound small fits messageFits begun part)

end Channel

/-- Whatever is sent on a connection and whatever the kernel answers: when no send fails in the
middle of a frame, the agent reads exactly the messages that were sent, in order. And only then is
it in step at every moment, so that it would read whatever message was sent next. -/
theorem outbound_stream_iff_untorn {κ : Type} [Kernel κ] {channel : Channel (Tapped κ)}
    {connection : Connection} (valid : channel.engine.config.validate = .ok ())
    (current : channel.engine.connection = some connection)
    (untouched : channel.kernel.written connection.socket = []) {limit : Nat}
    (bound : channel.engine.config.maxMessageSize ≤ limit) (postings : List Posting) :
    (channel.Untorn connection.socket postings →
      received limit ((channel.postAll postings).2.kernel.written connection.socket) =
        (channel.postAll postings).1.map .ok) ∧
    (channel.Untorn connection.socket postings ↔ ∀ before, before <+: postings →
      InStep limit channel.engine.config.maxMessageSize
        ((channel.postAll before).2.kernel.written connection.socket)
        (channel.postAll before).1) := by
  have small : channel.engine.config.maxMessageSize ≤ Frame.lengthLimit :=
    Nat.le_pred_of_lt (Config.maxMessageSize_of_valid valid).2
  have nothing : ∀ message ∈ ([] : List HostMessage),
      message.encode.length ≤ channel.engine.config.maxMessageSize := by
    simp
  have inStep := Channel.inStep_iff_untorn_of_framed bound small rfl current nothing untouched
    postings
  refine ⟨fun untorn => ?_, inStep⟩
  have last := inStep.1 untorn postings (List.prefix_refl _) [] (by simp)
  simpa [framed] using last

/-- A write in three goes, one that is refused at once, and one that is taken whole. -/
theorem outbound_stream_of_three_sends :
    let start : Channel (Tapped Script) := (Channel.fresh
      ⟨⟨[.wrote 3, .interrupted, .wrote 5, .failed (.os .wouldBlock)]⟩, []⟩ {}
      (some .recording)).accept 7
    let postings : List Posting := [.storage 5, .command .suspend, .connectivity .wifiOnly]
    start.Untorn 7 postings ∧
      received 1048576 ((start.postAll postings).2.kernel.written 7) =
        [.ok (.auditNotify 5), .ok (.connectivityChange .wifiOnly)] := by
  intro start postings
  have untorn : start.Untorn 7 postings := by
    refine ⟨Or.inl ?_, Or.inr ?_, Or.inl ?_, trivial⟩
    · cbv
    · cbv
    · cbv
  have read := (@outbound_stream_iff_untorn Script _ start ⟨1, 7⟩ Config.validate_default rfl rfl
    1048576 (by decide) postings).1 untorn
  have sent : (start.postAll postings).1 = [.auditNotify 5, .connectivityChange .wifiOnly] := by
    cbv
  rw [sent] at read
  exact ⟨untorn, read⟩

/-- A write that stops in the middle of a frame: the next message is sent, and the agent reads
neither of the two. -/
theorem suspend_lost_behind_part_of_a_frame :
    let start : Channel (Tapped Script) := (Channel.fresh
      ⟨⟨[.wrote 5, .failed (.os .wouldBlock)]⟩, []⟩ {} (some .recording)).accept 7
    let run := start.postAll [.storage 5, .command .suspend]
    start.engine.config.validate = .ok () ∧ start.engine.connection = some ⟨1, 7⟩ ∧
      start.kernel.written 7 = [] ∧ run.1 = [.suspend] ∧
      run.2.engine.connection = some ⟨1, 7⟩ ∧
      received 1048576 (run.2.kernel.written 7) = [.error (.malformed ⟨none, .zeroTag⟩)] ∧
      received 1048576 (run.2.kernel.written 7) ≠ run.1.map .ok := by
  intro start run
  have sent : run.1 = [.suspend] := by cbv
  have read : received 1048576 (run.2.kernel.written 7) =
      [.error (.malformed ⟨none, .zeroTag⟩)] := by cbv
  refine ⟨Config.validate_default, rfl, rfl, sent, by cbv, read, ?_⟩
  rw [sent, read]
  intro same
  cases (List.cons.inj same).1

end ServiceChannel
