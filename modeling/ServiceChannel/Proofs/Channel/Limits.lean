import ServiceChannel.Proofs.Channel.Binding

/-!
# Limits of configured values

A configuration is checked before anything is acquired, but the limits that it meets later are those
of binding and listening. The two agree on the length of the path, and do not on its text and on the
backlog: a zero in the path and a backlog that is too large come up only when the socket is there.

- `Config.validate_ok_iff`: what the check asks for.
- `Config.socketPath_of_valid`: the path is below its directory.
- `Config.addressFault?_of_valid`, `Config.backlogFault?_of_valid`: what the later limits find.
- `bring_up_of_valid`: which configured values make a phase fail.
- `bring_up_at_the_limits`: the longest path and the largest backlog.
- `refused_late`: values that pass the check and make a phase fail.
-/

namespace ServiceChannel

namespace Config

variable {config : Config}

/-- What the check asks for. -/
theorem validate_ok_iff :
    config.validate = .ok () ↔
      config.socketName ≠ "" ∧ '/' ∉ config.socketName.toList ∧ 0 < config.backlog ∧
        0 < config.maxMessageSize ∧ config.maxMessageSize < UInt32.size ∧
        config.socketPath.utf8ByteSize < addressCapacity := by
  unfold validate
  split
  · rename_i bad
    refine iff_of_false nofun fun ⟨named, noSlash, _⟩ => ?_
    exact bad.elim named noSlash
  · rename_i name
    obtain ⟨named, noSlash⟩ := not_or.1 name
    split
    · rename_i bad
      exact iff_of_false nofun fun ⟨_, _, positive, _⟩ => Int32.not_le.2 positive bad
    · rename_i backlog
      split
      · rename_i bad
        refine iff_of_false nofun fun ⟨_, _, _, present, fits, _⟩ => ?_
        omega
      · rename_i size
        split
        · rename_i bad
          exact iff_of_false nofun fun ⟨_, _, _, _, _, short⟩ => Nat.not_lt.2 bad short
        · rename_i path
          exact iff_of_true rfl
            ⟨named, noSlash, Int32.not_le.1 backlog, by omega, by omega, Nat.not_le.1 path⟩

/-- What stands between the directory and the name. -/
def separator (config : Config) : String :=
  if config.socketDir = "" ∨ config.socketDir.toList.getLast? = some '/' then "" else "/"

/-- A name that passes is no path of its own, so it does not replace the directory. -/
theorem socketPath_of_valid (valid : config.validate = .ok ()) :
    config.socketPath = config.socketDir ++ config.separator ++ config.socketName := by
  obtain ⟨-, noSlash, -⟩ := validate_ok_iff.1 valid
  have relative : config.socketName.toList.head? ≠ some '/' := fun slash =>
    noSlash (List.mem_of_mem_head? slash)
  unfold socketPath joinPath separator
  rw [if_neg relative]
  split <;> simp

/-- The path is short enough, so it is an address unless there is a zero in it. -/
theorem addressFault?_of_valid (valid : config.validate = .ok ()) :
    addressFault? config.socketPath =
      if hasZero config.socketPath then some .invalidArgument else none := by
  obtain ⟨-, -, -, -, -, short⟩ := validate_ok_iff.1 valid
  unfold addressFault?
  rw [if_neg (Nat.not_le.2 short)]

/-- The backlog is positive, so it is one unless it is too large. -/
theorem backlogFault?_of_valid (valid : config.validate = .ok ()) :
    backlogFault? config.backlog =
      if config.backlog < backlogLimit then none else some .invalidArgument := by
  obtain ⟨-, -, positive, -⟩ := validate_ok_iff.1 valid
  have notNegative : ¬ config.backlog < -1 := by
    rw [Int32.lt_iff_toInt_lt] at positive ⊢
    simp at positive ⊢
    omega
  unfold backlogFault?
  simp only [notNegative, false_or]
  split
  · rename_i large
    exact (if_neg (Int32.not_lt.2 large)).symm
  · rename_i small
    exact (if_pos (Int32.not_le.1 small)).symm

end Config

/-- What a configuration that passes its check comes to when the socket is bound and put to
listening, whatever the kernel and the container do.
The path is the name below the directory, and it is never too long. It is bound exactly if the
kernel does its part and there is no zero in it; a path with a zero is refused before the kernel is
asked for anything.
The backlog is never too small. The socket listens exactly if the kernel and the container do their
part and the backlog is below the limit; one that is not is refused before the kernel is asked.
So no other value makes a phase fail, and these two do. -/
theorem bring_up_of_valid (config : Config) (valid : config.validate = .ok ()) :
    config.socketPath = config.socketDir ++ config.separator ++ config.socketName ∧
    addressFault? config.socketPath =
      (if hasZero config.socketPath then some .invalidArgument else none) ∧
    backlogFault? config.backlog =
      (if config.backlog < backlogLimit then none else some .invalidArgument) ∧
    ∀ {κ : Type} [Kernel κ] (channel : Channel κ) (socket : Handle),
      channel.engine.config = config →
        (channel.engine.rendezvous = .created socket →
          (channel.bind.1 = .ok () ↔ hasZero config.socketPath = false ∧
            (Kernel.clear channel.kernel config.socketPath).1 = .ok () ∧
            (Kernel.bind (Kernel.clear channel.kernel config.socketPath).2 socket
              config.socketPath).1 = .ok ()) ∧
          (hasZero config.socketPath = true → channel.bind =
            (.error (.bind config.socketPath .zeroInFileName), channel.closeRendezvous))) ∧
        (channel.engine.rendezvous = .bound socket →
          (channel.listen.1 = .ok () ↔ config.backlog < backlogLimit ∧
            (Kernel.listen channel.kernel socket config.backlog).1 = .ok () ∧
            (channel.register .bridge).1.isOk = true) ∧
          (backlogLimit ≤ config.backlog → channel.listen =
            (.error (.listen (.os .invalidArgument)), channel.closeRendezvous))) := by
  have address := Config.addressFault?_of_valid valid
  have backlog := Config.backlogFault?_of_valid valid
  refine ⟨Config.socketPath_of_valid valid, address, backlog, ?_⟩
  rintro κ _ channel socket rfl
  refine ⟨fun turn => ⟨?binds, fun zero => ?unnamed⟩, fun turn => ⟨?listens, fun large => ?flooded⟩⟩
  case binds =>
    have ended : channel.bind.1 = .ok () ↔
        (channel.bindAt socket channel.engine.config.socketPath).1 = .ok () := by
      rw [channel.bind_fst turn]
      generalize (channel.bindAt socket channel.engine.config.socketPath).1 = result
      cases result with
      | error error => exact iff_of_false nofun nofun
      | ok _ => exact iff_of_true rfl rfl
    rw [ended]
    cases named : hasZero channel.engine.config.socketPath with
    | true => simp [channel.bindAt_of_zero socket named]
    | false =>
      rw [named] at address
      simp [channel.bindAt_ok_iff socket named address]
  case unnamed => rw [channel.bind_of_created turn, channel.bindAt_of_zero socket zero]
  case listens =>
    rw [channel.listen_ok_iff turn, backlog]
    simp
  case flooded =>
    rw [if_neg (Int32.not_lt.2 large)] at backlog
    exact channel.listen_of_fault turn backlog

/-- Results can be compared. -/
instance decidableEqExcept {Fault Value : Type} [DecidableEq Fault] [DecidableEq Value] :
    DecidableEq (Except Fault Value)
  | .ok first, .ok second => decidable_of_iff (first = second) (by simp)
  | .error first, .error second => decidable_of_iff (first = second) (by simp)
  | .ok _, .error _ => isFalse nofun
  | .error _, .ok _ => isFalse nofun

/-- The longest path and the largest backlog, on a kernel that does its part. -/
theorem bring_up_at_the_limits :
    let config : Config :=
      { socketDir := "", socketName := String.ofList (List.replicate 107 'a'), backlog := 4095 }
    let created := (Channel.fresh (⟨[]⟩ : Script) config (some .recording)).create.2
    config.validate = .ok () ∧ config.socketPath.utf8ByteSize = 107 ∧
      created.bind.1 = .ok () ∧ created.bind.2.listen.1 = .ok () := by
  intro config created
  have valid : config.validate = .ok () := by decide +kernel
  have made : created.engine.config = config ∧ created.engine.rendezvous = .created 0 := by
    decide +kernel
  have bound : created.bind.2.engine.config = config ∧
      created.bind.2.engine.rendezvous = .bound 0 := by
    decide +kernel
  have values := bring_up_of_valid config valid
  refine ⟨valid, by decide +kernel, ?_, ?_⟩
  · refine ((values.2.2.2 created 0 made.1).1 made.2).1.2 ?_
    decide +kernel
  · refine ((values.2.2.2 created.bind.2 0 bound.1).2 bound.2).1.2 ?_
    decide +kernel

/-- Values that pass the check and make a phase fail, on a kernel that does its part: a backlog at
the limit, and a zero in the name. -/
theorem refused_late :
    let start (config : Config) := Channel.fresh (⟨[]⟩ : Script) config (some .recording)
    (let config : Config := { backlog := 4096 }
      let bound := (start config).create.2.bind
      config.validate = .ok () ∧ (start config).create.1 = .ok () ∧ bound.1 = .ok () ∧
        bound.2.listen.1 = .error (.listen (.os .invalidArgument))) ∧
    let config : Config := { socketName := "a\x00b" }
    config.validate = .ok () ∧ (start config).create.1 = .ok () ∧
      (start config).create.2.bind.1 =
        .error (.bind "/run/socket/a\x00b" .zeroInFileName) := by
  refine ⟨⟨?_, ?_, ?_, ?_⟩, ?_, ?_, ?_⟩
  all_goals decide +kernel

end ServiceChannel
