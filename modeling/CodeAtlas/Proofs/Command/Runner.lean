import CodeAtlas.Command.Basic

/-!
# What running a command comes to

Whatever programs there are and whatever they do, a command either is not started, and the fault
says which command that was and why, or it leaves the status of its process and as much of both
streams as the limit allows. It is told apart whether it was cancelled, took too long, or ended in
time.

## Architecture

- **Layer A**: times;
- **Layer B**: what a process leaves, and the main result.
-/

namespace CodeAtlas

/-! ## Layer A: times -/

namespace RunLimits

/-- The grace is not cut short, and it ends with the next check. -/
theorem graceLength_bounds (l : RunLimits) :
    l.grace ≤ l.graceLength ∧ l.graceLength < l.grace + gracePoll := by
  unfold graceLength gracePoll
  omega

/-- **A command is asked to end before it is made to**, and has the grace in between. -/
theorem alarms_in_order (l : RunLimits) :
    l.alarms.Pairwise fun a b => a.1 + l.grace * 1000 ≤ b.1 := by
  unfold alarms
  cases l.term? with
  | none => exact .nil
  | some t =>
    have hgrace := l.graceLength_bounds.1
    refine List.pairwise_pair.2 ?_
    simp only
    omega

end RunLimits

namespace ProcessSystem

variable {s : ProcessSystem} {c : CommandSpec} {l : RunLimits} {p : EndedProcess}

/-- A process was asked to end if the command was cancelled, or took as long as it may. -/
theorem isLate_iff :
    isLate l p = true ↔ l.cancelled = true ∨ ∃ t, l.timeout = some t ∧ t * 1000 ≤ p.ended := by
  unfold isLate RunLimits.term?
  cases l.cancelled with
  | true => simp
  | false => cases l.timeout <;> simp

/-! ## Layer B: what a process leaves -/

/-- **What a process leaves** under the limits of its run. -/
structure Leaves (l : RunLimits) (p : EndedProcess) (o : CommandOutput) : Prop where
  status : o.status = p.status
  stdout : o.stdout = Bytes.lossyText (p.stdout.take l.maxBytes)
  stderr : o.stderr = Bytes.lossyText (p.stderr.take l.maxBytes)
  truncated : o.truncated = true ↔ l.maxBytes < p.stdout.length ∨ l.maxBytes < p.stderr.length
  /-- A command that was cancelled did not take too long, however long it took. -/
  timedOut : o.timedOut = true ↔
    l.cancelled = false ∧ ∃ t, l.timeout = some t ∧ t * 1000 ≤ p.ended
  cancelled : o.cancelled = l.cancelled

/-- What was not truncated is whole. -/
theorem Leaves.whole {o : CommandOutput} (h : Leaves l p o) (hwhole : o.truncated = false) :
    o.stdout = Bytes.lossyText p.stdout ∧ o.stderr = Bytes.lossyText p.stderr := by
  have hshort := mt h.truncated.2 (by simp [hwhole])
  rw [not_or, Nat.not_lt, Nat.not_lt] at hshort
  rw [h.stdout, h.stderr, List.take_of_length_le hshort.1, List.take_of_length_le hshort.2]
  exact ⟨rfl, rfl⟩

/-- A process leaves one outcome. -/
theorem Leaves.unique {o o' : CommandOutput} (h : Leaves l p o) (h' : Leaves l p o') : o = o' := by
  obtain ⟨status, stdout, stderr, truncated, timedOut, cancelled⟩ := o
  obtain ⟨status', stdout', stderr', truncated', timedOut', cancelled'⟩ := o'
  obtain rfl : status = status' := h.status.trans h'.status.symm
  obtain rfl : stdout = stdout' := h.stdout.trans h'.stdout.symm
  obtain rfl : stderr = stderr' := h.stderr.trans h'.stderr.symm
  obtain rfl : truncated = truncated' := Bool.eq_iff_iff.2 (h.truncated.trans h'.truncated.symm)
  obtain rfl : timedOut = timedOut' := Bool.eq_iff_iff.2 (h.timedOut.trans h'.timedOut.symm)
  obtain rfl : cancelled = cancelled' := h.cancelled.trans h'.cancelled.symm
  rfl

/-- Every process leaves something, which is what a run makes of it. -/
theorem exists_leaves (h : s.spawn c l = .ok p) : ∃ o, s.run c l = .ok o ∧ Leaves l p o := by
  unfold run
  rw [h]
  refine ⟨_, rfl, rfl, rfl, rfl, ?_, ?_, ?_⟩
  · simp
  · simp only [Bool.and_eq_true, Bool.not_eq_true', isLate_iff]
    constructor
    · rintro ⟨hcancelled | htimeout, hnot⟩
      · simp [hnot] at hcancelled
      · exact ⟨hnot, htimeout⟩
    · rintro ⟨hnot, htimeout⟩
      exact ⟨Or.inr htimeout, hnot⟩
  · cases hcancelled : l.cancelled with
    | true => simp [isLate_iff.2 (Or.inl hcancelled)]
    | false => simp

/-- **Running a command**, on every system of processes and under all limits:
- it fails exactly if its process is not started, and the fault names the command and the cause;
- else its outcome is what the process leaves, and a command that was cancelled is not told to have
  taken too long. -/
theorem run_outcome (s : ProcessSystem) (c : CommandSpec) (l : RunLimits) :
    (∀ fault, s.run c l = .error fault ↔
      ∃ cause, s.spawn c l = .error cause ∧ fault = c.spawnFault cause) ∧
    ∀ o, s.run c l = .ok o ↔ ∃ p, s.spawn c l = .ok p ∧ Leaves l p o := by
  cases hspawn : s.spawn c l with
  | error cause =>
    have hrun : s.run c l = .error (c.spawnFault cause) := by
      unfold run
      rw [hspawn]
    simp [hrun, eq_comm]
  | ok p =>
    obtain ⟨o, hrun, hleaves⟩ := exists_leaves hspawn
    refine ⟨fun fault => by simp [hrun], fun o' => ?_⟩
    simp only [hrun, Except.ok.injEq, exists_eq_left']
    exact ⟨fun heq => heq ▸ hleaves, hleaves.unique⟩

/-- A tool that prints more than is kept, and does not end in time. -/
example :
    let slow : ProcessSystem := ⟨fun _ _ _ => .ok ⟨.signalled 15, 100000, [48, 49, 50], []⟩⟩
    let limits : RunLimits := { timeout := some 100, maxBytes := 2 }
    (slow.run ⟨⟨"/w"⟩, ⟨"tool"⟩, [], .empty⟩ limits).toOption =
      some ⟨⟨15⟩, "01", "", true, true, false⟩ := by decide +kernel

end ProcessSystem

end CodeAtlas
