import ServiceChannel.Kernel

/-!
# Scripted kernels

A kernel that answers writes from a script, and does everything else at once. Once the script is
through, it takes whatever it is given.
-/

namespace ServiceChannel

/-- The answers to the writes that are still to come. -/
structure Script where
  answers : List SendAnswer := []
  deriving DecidableEq

instance : Kernel Script where
  openSocket script := (.ok 0, script)
  entry script _ := (.error (.os .noEntry), script)
  remove script _ := (.ok (), script)
  bind script _ _ := (.ok (), script)
  listen script _ _ := (.ok (), script)
  send script _ buffer :=
    match script.answers with
    | [] => (.wrote buffer.length, script)
    | answer :: answers => (answer, ⟨answers⟩)
  close script _ := script
  spawn script _ := (.ok (), script)
  patience script := script.answers.length
  patience_send := by
    intro script after socket buffer interrupted
    split at interrupted
    · cases interrupted
    · rename_i answer answers found
      cases interrupted
      simp [found]

end ServiceChannel
