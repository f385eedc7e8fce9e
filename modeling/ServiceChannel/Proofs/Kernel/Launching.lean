import ServiceChannel.Kernel

/-!
# Kernels that note programs

A kernel that writes down, next to doing its work, which programs it was asked to run. It answers
as the kernel inside it does.

- `Launching.launched`: the argument vectors of the programs, in order.
-/

namespace ServiceChannel

/-- A kernel and the programs that it was asked to run, the oldest first. -/
structure Launching (κ : Type) where
  kernel : κ
  launched : List (List String) := []
  deriving DecidableEq

namespace Launching

variable {κ : Type}

/-- A call that runs no program. -/
def lift {Result : Type} (launching : Launching κ) (call : κ → Result × κ) :
    Result × Launching κ :=
  let (result, kernel) := call launching.kernel
  (result, { launching with kernel := kernel })

/-- The kernel inside goes on. -/
def resume (launching : Launching κ) (kernel : κ) : Launching κ :=
  { launching with kernel := kernel }

instance [Kernel κ] : Kernel (Launching κ) where
  openSocket launching := launching.lift Kernel.openSocket
  entry launching path := launching.lift (Kernel.entry · path)
  remove launching path := launching.lift (Kernel.remove · path)
  bind launching socket path := launching.lift (Kernel.bind · socket path)
  listen launching socket backlog := launching.lift (Kernel.listen · socket backlog)
  send launching socket buffer := launching.lift (Kernel.send · socket buffer)
  close launching socket := launching.resume (Kernel.close launching.kernel socket)
  spawn launching arguments :=
    let (result, kernel) := Kernel.spawn launching.kernel arguments
    (result, ⟨kernel, launching.launched ++ [arguments]⟩)
  patience launching := Kernel.patience launching.kernel
  patience_send := by
    intro launching after socket buffer interrupted
    obtain ⟨answered, rfl⟩ := Prod.mk.inj interrupted
    exact Kernel.patience_send (Prod.ext answered rfl)

end Launching
end ServiceChannel
