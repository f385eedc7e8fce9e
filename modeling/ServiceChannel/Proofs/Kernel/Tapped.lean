import ServiceChannel.Proofs.Kernel.Attempts

/-!
# Tapped kernels

A kernel that writes down, next to doing its work, which bytes it took on which socket. It answers
as the kernel inside it does.

- `Tapped.written`: the bytes that a socket took so far.
- `sendAll_tapped`: a buffer is written as it is without the notes.
- `sendAll_written`: what a buffer that is written whole, or not, leaves on its socket.
-/

namespace ServiceChannel

/-- A kernel and what was written to it, the oldest first. -/
structure Tapped (κ : Type) where
  kernel : κ
  tape : List (Handle × Bytes) := []
  deriving DecidableEq

namespace Tapped

variable {κ : Type}

/-- The bytes that a socket took so far. -/
def written (tapped : Tapped κ) (socket : Handle) : Bytes :=
  (tapped.tape.filter (·.1 = socket)).flatMap (·.2)

/-- A call that writes nothing. -/
def lift {Result : Type} (tapped : Tapped κ) (call : κ → Result × κ) : Result × Tapped κ :=
  let (result, kernel) := call tapped.kernel
  (result, { tapped with kernel := kernel })

/-- Writes down what a socket took. -/
def note (tapped : Tapped κ) (kernel : κ) (socket : Handle) (bytes : Bytes) : Tapped κ where
  kernel := kernel
  tape := tapped.tape ++ [(socket, bytes)]

theorem written_note (tapped : Tapped κ) (kernel : κ) (socket : Handle) (bytes : Bytes) :
    (tapped.note kernel socket bytes).written socket = tapped.written socket ++ bytes := by
  simp [written, note]

theorem written_note_of_ne (tapped : Tapped κ) (kernel : κ) {socket other : Handle}
    (elsewhere : other ≠ socket) (bytes : Bytes) :
    (tapped.note kernel socket bytes).written other = tapped.written other := by
  simp [written, note, elsewhere.symm]

instance [Kernel κ] : Kernel (Tapped κ) where
  openSocket tapped := tapped.lift Kernel.openSocket
  entry tapped path := tapped.lift (Kernel.entry · path)
  remove tapped path := tapped.lift (Kernel.remove · path)
  bind tapped socket path := tapped.lift (Kernel.bind · socket path)
  listen tapped socket backlog := tapped.lift (Kernel.listen · socket backlog)
  send tapped socket buffer :=
    let (answer, kernel) := Kernel.send tapped.kernel socket buffer
    (answer, tapped.note kernel socket (buffer.take answer.taken))
  close tapped socket := { tapped with kernel := Kernel.close tapped.kernel socket }
  spawn tapped arguments := tapped.lift (Kernel.spawn · arguments)
  patience tapped := Kernel.patience tapped.kernel
  patience_send := by
    intro tapped after socket buffer interrupted
    obtain ⟨answered, rfl⟩ := Prod.mk.inj interrupted
    exact Kernel.patience_send (Prod.ext answered rfl)

variable [Kernel κ]

/-- What a socket took grows by what the answer to a write says. -/
theorem written_send {tapped after : Tapped κ} {socket : Handle} {buffer : Bytes}
    {answer : SendAnswer} (sent : Kernel.send tapped socket buffer = (answer, after)) :
    after.written socket = tapped.written socket ++ buffer.take answer.taken := by
  obtain ⟨rfl, rfl⟩ := Prod.mk.inj sent
  exact written_note _ _ _ _

/-- A write is no business of other sockets. -/
theorem written_send_of_ne {tapped after : Tapped κ} {socket other : Handle}
    (elsewhere : other ≠ socket) {buffer : Bytes} {answer : SendAnswer}
    (sent : Kernel.send tapped socket buffer = (answer, after)) :
    after.written other = tapped.written other := by
  obtain ⟨-, rfl⟩ := Prod.mk.inj sent
  exact written_note_of_ne _ _ elsewhere _

end Tapped

/-- The first write of a buffer, and what follows from its answer. -/
theorem sendAll_cons {κ : Type} [Kernel κ] {kernel after : κ} {socket : Handle} {byte : UInt8}
    {rest : Bytes} {answer : SendAnswer}
    (sent : Kernel.send kernel socket (byte :: rest) = (answer, after)) :
    sendAll kernel socket (byte :: rest) = match answer with
      | .wrote 0 => (.error .writeZero, after)
      | .wrote (more + 1) => sendAll after socket (rest.drop more)
      | .interrupted => sendAll after socket (byte :: rest)
      | .failed error => (.error error, after) := by
  rw [sendAll]
  split <;> rename_i other <;> rw [sent] at other <;> cases other <;> rfl

/-- Writing down what is written changes no answer. -/
theorem sendAll_tapped {κ : Type} [Kernel κ] (tapped : Tapped κ) (socket : Handle)
    (buffer : Bytes) :
    (sendAll tapped socket buffer).1 = (sendAll tapped.kernel socket buffer).1 ∧
      (sendAll tapped socket buffer).2.kernel = (sendAll tapped.kernel socket buffer).2 := by
  have inside {tapped after : Tapped κ} {bytes : Bytes} {answer : SendAnswer}
      (sent : Kernel.send tapped socket bytes = (answer, after)) :
      Kernel.send tapped.kernel socket bytes = (answer, after.kernel) := by
    obtain ⟨rfl, rfl⟩ := Prod.mk.inj sent
    rfl
  fun_induction sendAll tapped socket buffer with
  | case1 tapped =>
    rw [sendAll]
    exact ⟨rfl, rfl⟩
  | case2 tapped byte rest after sent => exact sendAll_cons (inside sent) ▸ ⟨rfl, rfl⟩
  | case3 tapped byte rest more after sent ih => exact sendAll_cons (inside sent) ▸ ih
  | case4 tapped byte rest after sent ih => exact sendAll_cons (inside sent) ▸ ih
  | case5 tapped byte rest error after sent => exact sendAll_cons (inside sent) ▸ ⟨rfl, rfl⟩

namespace Attempts

variable {κ : Type} [Kernel κ] {tapped after : Tapped κ} {socket : Handle} {buffer : Bytes}
  {answers : List SendAnswer}

/-- What a socket took grows by as much of the buffer as the answers say. -/
theorem written (attempts : Attempts socket tapped buffer answers after) :
    after.written socket = tapped.written socket ++ buffer.take (SendAnswer.total answers) := by
  induction attempts with
  | stop => simp [SendAnswer.total]
  | again _ sent _ ih =>
    rw [ih, Tapped.written_send sent, SendAnswer.total, List.take_add, List.append_assoc]

/-- Attempts are no business of other sockets. -/
theorem written_of_ne (attempts : Attempts socket tapped buffer answers after) {other : Handle}
    (elsewhere : other ≠ socket) : after.written other = tapped.written other := by
  induction attempts with
  | stop => rfl
  | again _ sent _ ih => exact ih.trans (Tapped.written_send_of_ne elsewhere sent)

end Attempts

/-- However the kernel answers, nothing is written to other sockets. -/
theorem sendAll_written_of_ne {κ : Type} [Kernel κ] (tapped : Tapped κ) {socket other : Handle}
    (elsewhere : other ≠ socket) (buffer : Bytes) :
    (sendAll tapped socket buffer).2.written other = tapped.written other := by
  obtain ⟨answers, attempts, -⟩ := sendAll_attempts tapped socket buffer
  exact attempts.written_of_ne elsewhere

/-- However the kernel answers, a front of the buffer is written, and it is the whole buffer
exactly when writing succeeds. -/
theorem sendAll_written {κ : Type} [Kernel κ] (tapped : Tapped κ) (socket : Handle)
    (buffer : Bytes) :
    ∃ count,
      (sendAll tapped socket buffer).2.written socket =
        tapped.written socket ++ buffer.take count ∧
      ((sendAll tapped socket buffer).1 = .ok () ↔ buffer.length ≤ count) := by
  obtain ⟨answers, attempts, concludes⟩ := sendAll_attempts tapped socket buffer
  exact ⟨SendAnswer.total answers, attempts.written, concludes.ok_iff⟩

end ServiceChannel
