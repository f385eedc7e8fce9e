import ServiceChannel.Kernel

/-!
# Attempts at a write

A buffer is written in attempts (`send_nonblocking`). Each attempt offers all that was not taken
before it, and the kernel answers it: it takes some of what it is offered, it is interrupted, or it
refuses. The answers to all attempts say what became of the buffer.

- `Attempts`: the answers to the attempts at one buffer.
- `Concludes`: when no attempt follows, and what the writer then says.
- `sendAll_attempts`: every write is a row of attempts that concludes.
-/

namespace ServiceChannel

namespace SendAnswer

/-- How many bytes from the front of a buffer the answer says were taken. -/
def taken : SendAnswer → Nat
  | .wrote count => count
  | .interrupted => 0
  | .failed _ => 0

/-- Why the writer gives up at the answer, if it does. An interruption is no reason. -/
def refusal? : SendAnswer → Option SystemError
  | .wrote 0 => some .writeZero
  | .wrote (_ + 1) => none
  | .interrupted => none
  | .failed error => some error

/-- How many bytes were taken in all. -/
def total : List SendAnswer → Nat
  | [] => 0
  | answer :: answers => answer.taken + total answers

theorem taken_of_refusal {answer : SendAnswer} {error : SystemError}
    (refuses : answer.refusal? = some error) : answer.taken = 0 := by
  match answer, refuses with
  | .wrote 0, _ => rfl
  | .failed _, _ => rfl

end SendAnswer

variable {κ : Type} [Kernel κ]

/-- The answers to attempts at a buffer, one after the other, and the kernel after them. -/
inductive Attempts (socket : Handle) : κ → Bytes → List SendAnswer → κ → Prop where
  | stop (kernel : κ) (buffer : Bytes) : Attempts socket kernel buffer [] kernel
  | again {kernel middle after : κ} {buffer : Bytes} {answer : SendAnswer}
    {answers : List SendAnswer} (left : buffer ≠ [])
    (sent : Kernel.send kernel socket buffer = (answer, middle))
    (later : Attempts socket middle (buffer.drop answer.taken) answers after) :
    Attempts socket kernel buffer (answer :: answers) after

/-- The answers with which a write of so many bytes is over, and what the writer says: everything
was taken and nothing refused, or the last answer is the first refusal and came too early. -/
inductive Concludes (size : Nat) : List SendAnswer → Except SystemError Unit → Prop where
  | whole {answers : List SendAnswer} (unrefused : ∀ answer ∈ answers, answer.refusal? = none)
    (all : size ≤ SendAnswer.total answers) : Concludes size answers (.ok ())
  | refused {progress : List SendAnswer} {last : SendAnswer} {error : SystemError}
    (unrefused : ∀ answer ∈ progress, answer.refusal? = none)
    (refusal : last.refusal? = some error) (part : SendAnswer.total (progress ++ [last]) < size) :
    Concludes size (progress ++ [last]) (.error error)

namespace Concludes

/-- One attempt more at the beginning, which was not refused. -/
theorem cons {size : Nat} {answer : SendAnswer} {answers : List SendAnswer}
    {result : Except SystemError Unit} (accepted : answer.refusal? = none)
    (concludes : Concludes (size - answer.taken) answers result) :
    Concludes size (answer :: answers) result := by
  cases concludes with
  | whole unrefused all =>
    refine .whole (List.forall_mem_cons.2 ⟨accepted, unrefused⟩) ?_
    rw [SendAnswer.total]
    omega
  | @refused progress last error unrefused refusal part =>
    have more : SendAnswer.total (answer :: progress ++ [last]) < size := by
      rw [List.cons_append, SendAnswer.total]
      omega
    exact .refused (List.forall_mem_cons.2 ⟨accepted, unrefused⟩) refusal more

/-- The first attempt is refused. -/
theorem first {size : Nat} {answer : SendAnswer} {error : SystemError} (some : 0 < size)
    (refusal : answer.refusal? = .some error) : Concludes size [answer] (.error error) := by
  have part : SendAnswer.total ([] ++ [answer]) < size := by
    rw [List.nil_append, SendAnswer.total, SendAnswer.taken_of_refusal refusal]
    exact some
  exact .refused (List.forall_mem_nil _) refusal part

/-- A write succeeds exactly when everything was taken. -/
theorem ok_iff {size : Nat} {answers : List SendAnswer} {result : Except SystemError Unit}
    (concludes : Concludes size answers result) :
    result = .ok () ↔ size ≤ SendAnswer.total answers := by
  cases concludes with
  | whole _ all => exact ⟨fun _ => all, fun _ => rfl⟩
  | refused _ _ part => exact ⟨nofun, fun all => absurd part (Nat.not_lt.2 all)⟩

end Concludes

/-- However the kernel answers, a write is a row of attempts, taken up to its conclusion. -/
theorem sendAll_attempts (kernel : κ) (socket : Handle) (buffer : Bytes) :
    ∃ answers, Attempts socket kernel buffer answers (sendAll kernel socket buffer).2 ∧
      Concludes buffer.length answers (sendAll kernel socket buffer).1 := by
  fun_induction sendAll kernel socket buffer with
  | case1 kernel => exact ⟨[], .stop kernel [], .whole (by simp) (Nat.zero_le _)⟩
  | case2 kernel byte rest after sent =>
    exact ⟨[.wrote 0], .again nofun sent (.stop _ _), .first (Nat.succ_pos _) rfl⟩
  | case3 kernel byte rest more after sent ih =>
    obtain ⟨answers, attempts, concludes⟩ := ih
    refine ⟨.wrote (more + 1) :: answers, .again nofun sent attempts, .cons rfl ?_⟩
    have left : (byte :: rest).length - SendAnswer.taken (.wrote (more + 1)) =
        (rest.drop more).length := by
      rw [SendAnswer.taken, List.length_drop, List.length_cons]
      omega
    rwa [left]
  | case4 kernel byte rest after sent ih =>
    obtain ⟨answers, attempts, concludes⟩ := ih
    exact ⟨.interrupted :: answers, .again nofun sent attempts, .cons rfl concludes⟩
  | case5 kernel byte rest error after sent =>
    exact ⟨[.failed error], .again nofun sent (.stop _ _), .first (Nat.succ_pos _) rfl⟩

end ServiceChannel
