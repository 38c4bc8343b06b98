import LineDispatch.Proofs.Loop.Transcript

/-!
# Stopping a loop

A loop looks whether it is told to stop once for each line, before the prompt.
What it is told while it reads line `n` is therefore seen when that line has been
answered and nothing has been written for the next, be the line blank or not
(`Loop.runLines_of_stopAt`).

So the lines in front of the cut tell all that a stopped run writes.  Put together
they are an input with just these lines (`Streams.Cut.take`), and a run over that
input writes the same, and then the prompt for the read that finds the end.
-/

namespace LineDispatch

namespace Streams

variable {input : List UInt8} {lines : List (List UInt8)}

theorem Cut.flatten (h : Cut input lines) : lines.flatten = input := by
  induction h with
  | none => rfl
  | last _ _ => exact List.flatten_singleton
  | line _ _ ih => rw [List.flatten_cons, ih, List.append_assoc, List.singleton_append]

/-- The first lines of an input are the lines of the bytes in them. -/
theorem Cut.take (h : Cut input lines) (n : Nat) : Cut (lines.take n).flatten (lines.take n) := by
  induction h generalizing n with
  | none =>
      rw [List.take_nil]
      exact .none
  | @last line hne hnot =>
      cases n with
      | zero => exact .none
      | succ n =>
          rw [List.take_succ_cons, List.take_nil, List.flatten_singleton]
          exact .last hne hnot
  | @line line rest lines hnot _ ih =>
      cases n with
      | zero => exact .none
      | succ n =>
          have hcut : Cut (line ++ 10 :: (lines.take n).flatten) ((line ++ [10]) :: lines.take n) :=
            .line hnot (ih n)
          rwa [List.take_succ_cons, List.flatten_cons, List.append_assoc, List.singleton_append]

theorem Cut.flatten_take_prefix (h : Cut input lines) (n : Nat) :
    (lines.take n).flatten <+: input := by
  refine ⟨(lines.drop n).flatten, ?_⟩
  rw [← List.flatten_append, List.take_append_drop, h.flatten]

end Streams

namespace Loop

variable {l : Loop} {s : Streams}

theorem runLines_of_stopAt (hs : s.Working) (read : Nat) {n : Nat} {lines : List (List UInt8)}
    (hn : n ≤ lines.length) :
    l.runLines s (some (read + n)) read lines =
      { written := (lines.take n).flatMap fun raw => l.promptWrites ++ l.respondRaw raw
        linesRead := n } := by
  induction n generalizing read lines with
  | zero => cases lines <;> exact if_pos rfl
  | succ n ih =>
      cases lines with
      | nil => exact absurd hn (Nat.not_succ_le_zero n)
      | cons raw rest =>
          have hlater : some (read + (n + 1)) ≠ some read := by
            intro heq
            injection heq with heq
            omega
          have hcount : read + (n + 1) = read + 1 + n := by omega
          have hrest := ih (read + 1) (Nat.le_of_succ_le_succ hn)
          rw [← hcount] at hrest
          rw [runLines, if_neg hlater, Streams.writeAll_of_working hs, turn_of_working hs, hrest,
            Outcome.andThen_of_done, Outcome.andThen_of_done]
          simp [Nat.add_comm 1]

/-- A loop that is told to stop while it reads line `n`, or before the first line if `n` is zero,
ends without a failure and has written what a run over the first `n` lines writes by itself, less
the prompt behind the last of them. -/
theorem run_stopped (l : Loop) (hs : s.Working) {lines : List (List UInt8)}
    (hlines : Streams.Cut s.input lines) {n : Nat} (hn : n ≤ lines.length) :
    let first := (lines.take n).flatten
    let alone := l.run { input := first } none
    let stopped := l.run s (some n)
    first <+: s.input ∧ Streams.Cut first (lines.take n) ∧
      stopped.failure = none ∧ stopped.linesRead = n ∧
      alone.failure = none ∧ alone.linesRead = n ∧
      alone.written = stopped.written ++ l.promptWrites ∧
      stopped.written =
        (lines.take n).flatMap fun raw => l.promptWrites ++ l.respondRaw raw := by
  obtain rfl := Streams.cut_iff.1 hlines
  intro first alone stopped
  have hfirst : Streams.Cut first ((Streams.rawLines s.input).take n) := hlines.take n
  have hstopped : stopped =
      { written := ((Streams.rawLines s.input).take n).flatMap fun raw =>
          l.promptWrites ++ l.respondRaw raw
        linesRead := n } := by
    have hrun := runLines_of_stopAt (l := l) hs 0 hn
    rwa [Nat.zero_add] at hrun
  have halone : alone =
      { written := l.transcript ((Streams.rawLines s.input).take n), linesRead := n } := by
    have hrun := run_eq_transcript l first
    rwa [← Streams.cut_iff.1 hfirst, List.length_take_of_le hn] at hrun
  rw [hstopped, halone]
  exact ⟨hlines.flatten_take_prefix n, hfirst, rfl, rfl, rfl, rfl, rfl, rfl⟩

/-- The second line is blank, and the loop is told to stop while it reads it. -/
theorem run_stopped_blank :
    let l : Loop := { interface := { help := true }, prompt := some "> ".toList }
    let s : Streams := { input := Utf8.encode "help\n \nhelp" }
    s.Working ∧ 2 ≤ (Streams.rawLines s.input).length ∧ (l.run s (some 2)).failure = none ∧
      (l.run s (some 2)).written =
        [⟨.out, "> "⟩, ⟨.out, "All available commands:\n"⟩, ⟨.out, "> "⟩] := by
  intro l s
  have hs : s.Working := Streams.working_input _
  have hn : 2 ≤ (Streams.rawLines s.input).length := by decide +kernel
  obtain ⟨-, -, hfailure, -, -, -, -, hwritten⟩ :=
    run_stopped l hs (Streams.cut_rawLines s.input) hn
  exact ⟨hs, hn, hfailure, hwritten.trans (by decide +kernel)⟩

end Loop

end LineDispatch
