import ServiceChannel.Kernel
import ServiceChannel.Proofs.Kernel.Attempts

/-!
# Kernels that note offers

A kernel that writes down, next to doing its work, every buffer that a socket was offered, whole,
and its answer. It answers as the kernel inside it does.

The notes tell where a buffer begins. An offer that is not refused owes the socket what it did not
take, and the next offer pays that; where nothing is owed, an offer begins a buffer. So what is
said about the buffers that are begun is said about the bytes in their order on the wire, and there
is no choice in where they are cut.

- `Offer.Settle`: offers that pay what is owed first, and begin buffers of one kind.
- `Offering.Offered`: what a kernel was offered between two moments.
- `sendAll_offered`: a buffer that is written, whole or not, is begun once and nothing else is.
-/

namespace ServiceChannel

/-! ## Offers -/

/-- A buffer that a socket was offered, and the answer. -/
structure Offer where
  socket : Handle
  buffer : Bytes
  answer : SendAnswer
  deriving DecidableEq

namespace Offer

/-- What the socket is still owed of the buffer: nothing once the offer is refused. -/
def owed (offer : Offer) : Bytes :=
  match offer.answer.refusal? with
  | some _ => []
  | none => offer.buffer.drop offer.answer.taken

/-- Offers in their order that pay what is owed before they begin a buffer, and begin buffers of one
kind only. In the end nothing is owed. -/
def Settle (kind : Bytes → Prop) : Bytes → List Offer → Prop
  | owed, [] => owed = []
  | owed, offer :: offers =>
    (if owed = [] then kind offer.buffer else offer.buffer = owed) ∧ Settle kind offer.owed offers

variable {kind : Bytes → Prop}

namespace Settle

theorem append {owed : Bytes} {first second : List Offer} (earlier : Settle kind owed first)
    (later : Settle kind [] second) : Settle kind owed (first ++ second) := by
  induction first generalizing owed with
  | nil =>
    obtain rfl : owed = [] := earlier
    exact later
  | cons offer offers ih => exact ⟨earlier.1, ih earlier.2⟩

theorem mono {other : Bytes → Prop} {owed : Bytes} {offers : List Offer}
    (weaker : ∀ offer ∈ offers, kind offer.buffer → other offer.buffer)
    (settles : Settle kind owed offers) : Settle other owed offers := by
  induction offers generalizing owed with
  | nil => exact settles
  | cons offer offers ih =>
    obtain ⟨first, later⟩ := settles
    obtain ⟨weakerFirst, weakerLater⟩ := List.forall_mem_cons.1 weaker
    refine ⟨?_, ih weakerLater later⟩
    split at first
    · rw [if_pos ‹_›]
      exact weakerFirst first
    · rw [if_neg ‹_›]
      exact first

/-- A buffer that is owed may as well be begun, if it is of the kind. -/
theorem begun {buffer : Bytes} {offers : List Offer} (settles : Settle kind buffer offers)
    (right : kind buffer) : Settle kind [] offers := by
  cases offers with
  | nil => rfl
  | cons offer offers =>
    refine ⟨?_, settles.2⟩
    have first := settles.1
    rw [if_pos rfl]
    split at first
    · exact first
    · rwa [first]

end Settle
end Offer

/-! ## The kernel -/

/-- A kernel and what its sockets were offered, the oldest first. -/
structure Offering (κ : Type) where
  kernel : κ
  offers : List Offer := []
  deriving DecidableEq

namespace Offering

variable {κ : Type}

/-- A call that offers nothing. -/
def lift {Result : Type} (offering : Offering κ) (call : κ → Result × κ) : Result × Offering κ :=
  let (result, kernel) := call offering.kernel
  (result, { offering with kernel := kernel })

/-- Writes an offer down. -/
def note (offering : Offering κ) (kernel : κ) (offer : Offer) : Offering κ :=
  ⟨kernel, offering.offers ++ [offer]⟩

instance [Kernel κ] : Kernel (Offering κ) where
  openSocket offering := offering.lift Kernel.openSocket
  entry offering path := offering.lift (Kernel.entry · path)
  remove offering path := offering.lift (Kernel.remove · path)
  bind offering socket path := offering.lift (Kernel.bind · socket path)
  listen offering socket backlog := offering.lift (Kernel.listen · socket backlog)
  send offering socket buffer :=
    let (answer, kernel) := Kernel.send offering.kernel socket buffer
    (answer, offering.note kernel ⟨socket, buffer, answer⟩)
  close offering socket := { offering with kernel := Kernel.close offering.kernel socket }
  spawn offering arguments := offering.lift (Kernel.spawn · arguments)
  patience offering := Kernel.patience offering.kernel
  patience_send := by
    intro offering after socket buffer interrupted
    obtain ⟨answered, rfl⟩ := Prod.mk.inj interrupted
    exact Kernel.patience_send (Prod.ext answered rfl)

theorem offers_send [Kernel κ] {offering after : Offering κ} {socket : Handle} {buffer : Bytes}
    {answer : SendAnswer} (sent : Kernel.send offering socket buffer = (answer, after)) :
    after.offers = offering.offers ++ [⟨socket, buffer, answer⟩] := by
  obtain ⟨rfl, rfl⟩ := Prod.mk.inj sent
  rfl

/-- From one moment to a later one only some sockets were offered anything: what was owed before
anything else, and then buffers of one kind, each until it was taken or refused. -/
def Offered (sockets : Handle → Prop) (kind : Bytes → Prop) (owed : Bytes)
    (before after : Offering κ) : Prop :=
  ∃ offers, after.offers = before.offers ++ offers ∧ (∀ offer ∈ offers, sockets offer.socket) ∧
    Offer.Settle kind owed offers

namespace Offered

variable {sockets : Handle → Prop} {kind : Bytes → Prop} {owed : Bytes}
  {before middle after : Offering κ}

theorem of_eq (same : after.offers = before.offers) : Offered sockets kind [] before after :=
  ⟨[], same.trans (List.append_nil _).symm, List.forall_mem_nil _, rfl⟩

/-- A kind has to be wider only if a socket could be offered something at all. -/
theorem mono {others : Handle → Prop} {other : Bytes → Prop}
    (wider : ∀ socket, sockets socket → others socket ∧ ∀ buffer, kind buffer → other buffer)
    (offered : Offered sockets kind owed before after) :
    Offered others other owed before after := by
  obtain ⟨offers, grown, on, settles⟩ := offered
  have each (offer : Offer) (mem : offer ∈ offers) := wider offer.socket (on offer mem)
  exact ⟨offers, grown, fun offer mem => (each offer mem).1,
    settles.mono fun offer mem => (each offer mem).2 offer.buffer⟩

theorem trans (first : Offered sockets kind owed before middle)
    (second : Offered sockets kind [] middle after) : Offered sockets kind owed before after := by
  obtain ⟨earlier, grown, on, settles⟩ := first
  obtain ⟨later, grownLater, onLater, settlesLater⟩ := second
  refine ⟨earlier ++ later, ?_, List.forall_mem_append.2 ⟨on, onLater⟩,
    settles.append settlesLater⟩
  rw [grownLater, grown, List.append_assoc]

/-- A buffer that is owed may as well be begun, if it is of the kind. -/
theorem begun {buffer : Bytes} (offered : Offered sockets kind buffer before after)
    (right : kind buffer) : Offered sockets kind [] before after := by
  obtain ⟨offers, grown, on, settles⟩ := offered
  exact ⟨offers, grown, on, settles.begun right⟩

/-- What is owed is offered, and what the answer leaves of it is owed from then on. -/
theorem again [Kernel κ] {socket : Handle} {byte : UInt8} {rest : Bytes} {answer : SendAnswer}
    (sent : Kernel.send before socket (byte :: rest) = (answer, middle)) (on : sockets socket)
    (later : Offered sockets kind (Offer.owed ⟨socket, byte :: rest, answer⟩) middle after) :
    Offered sockets kind (byte :: rest) before after := by
  obtain ⟨offers, grown, onLater, settles⟩ := later
  refine ⟨⟨socket, byte :: rest, answer⟩ :: offers, ?_, List.forall_mem_cons.2 ⟨on, onLater⟩,
    if_neg (List.cons_ne_nil byte rest) ▸ rfl, settles⟩
  rw [grown, offers_send sent, List.append_assoc, List.singleton_append]

end Offered
end Offering

/-- However the kernel answers, a write offers its buffer until that is taken or refused, and begins
nothing else. -/
theorem sendAll_offered {κ : Type} [Kernel κ] (offering : Offering κ) (socket : Handle)
    (buffer : Bytes) (kind : Bytes → Prop) :
    Offering.Offered (· = socket) kind buffer offering (sendAll offering socket buffer).2 := by
  fun_induction sendAll offering socket buffer with
  | case1 offering => exact .of_eq rfl
  -- The answers that end a write are refusals, which leave nothing owed.
  | case2 offering byte rest after sent => exact .again sent rfl (.of_eq rfl)
  | case3 offering byte rest more after sent ih => exact .again sent rfl ih
  | case4 offering byte rest after sent ih => exact .again sent rfl ih
  | case5 offering byte rest error after sent => exact .again sent rfl (.of_eq rfl)

end ServiceChannel
