import LineDispatch.Proofs.Loop.Transcript

/-!
# Loops over failing streams

A channel that fails at every write ends a run at the first write to it, and
what was written before stays.  This is so of a single write, and it stays so
when one stretch of a run is put behind another, for a stretch that was ended
keeps the next from happening (`Outcome.Truncated.andThen`): the run over the
failing channel is the run over working streams up to there
(`Loop.truncated_runLines`).

An input that fails at its end does so in the read behind the last newline byte.
What stands behind that byte is no complete line, and it is lost with the read
(`Loop.runLines_of_inputFailure`).
-/

namespace LineDispatch

variable {channel : Channel} {failure : Text}

/-! ## Outcomes up to a channel -/

theorem takeWhile_append_of_reached {writes : List Write}
    (h : ∃ w ∈ writes, w.channel = channel) (more : List Write) :
    (writes ++ more).takeWhile (·.channel ≠ channel) = writes.takeWhile (·.channel ≠ channel) := by
  obtain ⟨w, hw, hchannel⟩ := h
  rw [List.takeWhile_append, if_neg]
  intro hlength
  have hall : writes.takeWhile (·.channel ≠ channel) = writes :=
    (List.takeWhile_prefix _).eq_of_length hlength
  have hother := List.takeWhile_eq_self_iff.1 hall w hw
  simp [hchannel] at hother

namespace Outcome

/-- Whether a stretch of a run has been cut off where the whole of it first writes to a channel: it
ends in the failure of that channel there, and as the whole does if the whole does not write to
it. -/
structure Truncated (channel : Channel) (failure : Text) (whole cut : Outcome) : Prop where
  written : cut.written = whole.written.takeWhile (·.channel ≠ channel)
  reached : (∃ w ∈ whole.written, w.channel = channel) → cut.failure = some failure
  spared : (∀ w ∈ whole.written, w.channel ≠ channel) → cut.failure = whole.failure

theorem Truncated.of_written_eq_nil {o : Outcome} (h : o.written = []) :
    Truncated channel failure o o where
  written := by
    rw [h]
    rfl
  reached := by simp [h]
  spared _ := rfl

theorem Truncated.written_of_spared {whole cut : Outcome}
    (h : Truncated channel failure whole cut) (hspared : ∀ w ∈ whole.written, w.channel ≠ channel) :
    cut.written = whole.written := by
  rw [h.written, List.takeWhile_eq_self_iff]
  simpa using hspared

/-- If the whole of a stretch does not fail, then what is left of it fails just when the whole writes
to the channel, and is the whole otherwise. -/
theorem Truncated.of_done {whole cut : Outcome} (h : Truncated channel failure whole cut)
    (hdone : whole.failure = none) :
    cut.written = whole.written.takeWhile (·.channel ≠ channel) ∧
      (cut.failure = some failure ↔ ∃ w ∈ whole.written, w.channel = channel) ∧
      (cut.failure = none ↔ cut.written = whole.written) := by
  by_cases hreached : ∃ w ∈ whole.written, w.channel = channel
  · have hfailure : cut.failure = some failure := h.reached hreached
    refine ⟨h.written, iff_of_true hfailure hreached, iff_of_false ?_ ?_⟩
    · rw [hfailure]
      exact Option.some_ne_none failure
    · rw [h.written, List.takeWhile_eq_self_iff]
      obtain ⟨w, hw, hchannel⟩ := hreached
      intro hall
      have hother := hall w hw
      simp [hchannel] at hother
  · have hspared : ∀ w ∈ whole.written, w.channel ≠ channel := by
      intro w hw hchannel
      exact hreached ⟨w, hw, hchannel⟩
    have hfailure : cut.failure = none := (h.spared hspared).trans hdone
    refine ⟨h.written, iff_of_false ?_ hreached,
      iff_of_true hfailure (h.written_of_spared hspared)⟩
    rw [hfailure]
    exact (Option.some_ne_none failure).symm

theorem Truncated.andThen {a a' b b' : Outcome} (ha : Truncated channel failure a a')
    (hb : Truncated channel failure b b') :
    Truncated channel failure (a.andThen b) (a'.andThen b') := by
  by_cases hreached : ∃ w ∈ a.written, w.channel = channel
  -- The first stretch ends in the failure, and the second does not happen.
  · have hcut : a'.andThen b' = a' := by rw [Outcome.andThen, ha.reached hreached]
    obtain ⟨more, hmore⟩ : ∃ more, (a.andThen b).written = a.written ++ more := by
      rw [Outcome.andThen]
      split
      · exact ⟨[], (List.append_nil _).symm⟩
      · exact ⟨b.written, rfl⟩
    rw [hcut]
    refine ⟨?_, fun _ => ha.reached hreached, fun hspared => ?_⟩
    · rw [hmore, takeWhile_append_of_reached hreached, ha.written]
    · obtain ⟨w, hw, hchannel⟩ := hreached
      exact absurd hchannel (hspared w (hmore ▸ List.mem_append_left more hw))
  · have hspared : ∀ w ∈ a.written, w.channel ≠ channel := by
      intro w hw hchannel
      exact hreached ⟨w, hw, hchannel⟩
    have hwritten : a'.written = a.written := ha.written_of_spared hspared
    have hfailure : a'.failure = a.failure := ha.spared hspared
    cases hend : a.failure with
    | some reason =>
        have hwhole : a.andThen b = a := by rw [Outcome.andThen, hend]
        have hcut : a'.andThen b' = a' := by rw [Outcome.andThen, hfailure, hend]
        rw [hwhole, hcut]
        exact ha
    | none =>
        have hwhole : a.andThen b = ⟨a.written ++ b.written, a.linesRead + b.linesRead, b.failure⟩ := by
          rw [Outcome.andThen, hend]
        have hcut : a'.andThen b' =
            ⟨a.written ++ b'.written, a'.linesRead + b'.linesRead, b'.failure⟩ := by
          rw [Outcome.andThen, hfailure, hend, hwritten]
        rw [hwhole, hcut]
        refine ⟨?_, ?_, ?_⟩
        · rw [List.takeWhile_append_of_pos (by simpa using hspared), ← hb.written]
        · rintro ⟨w, hw, hchannel⟩
          rcases List.mem_append.1 hw with hfirst | hsecond
          · exact absurd hchannel (hspared w hfirst)
          · exact hb.reached ⟨w, hsecond, hchannel⟩
        · intro hall
          exact hb.spared fun w hw => hall w (List.mem_append_right _ hw)

end Outcome

namespace Streams

variable {s : Streams}

/-- The streams with a channel that fails at every write. -/
def breaking (s : Streams) (channel : Channel) (failure : Text) : Streams :=
  { s with failing := some (channel, failure) }

theorem truncated_write (hs : s.failing = none) (w : Write) :
    Outcome.Truncated channel failure (s.write w) ((s.breaking channel failure).write w) := by
  have hwhole : s.write w = { written := [w] } := by rw [write, hs]
  rw [hwhole]
  by_cases hchannel : channel = w.channel
  · have hcut : (s.breaking channel failure).write w = { failure := some failure } := if_pos hchannel
    rw [hcut]
    refine ⟨?_, fun _ => rfl, fun hspared => ?_⟩
    · simp [hchannel]
    · exact absurd hchannel.symm (hspared w List.mem_cons_self)
  · have hcut : (s.breaking channel failure).write w = { written := [w] } := if_neg hchannel
    rw [hcut]
    refine ⟨?_, ?_, fun _ => rfl⟩
    · simp [Ne.symm hchannel]
    · rintro ⟨w', hw', hreached⟩
      rw [List.mem_singleton] at hw'
      subst hw'
      exact absurd hreached.symm hchannel

theorem truncated_writeAll (hs : s.failing = none) (writes : List Write) :
    Outcome.Truncated channel failure (s.writeAll writes)
      ((s.breaking channel failure).writeAll writes) := by
  induction writes with
  | nil => exact .of_written_eq_nil rfl
  | cons w rest ih => exact (truncated_write hs w).andThen ih

end Streams

namespace Loop

variable {l : Loop} {s : Streams}

theorem truncated_turn (hs : s.failing = none) (raw : List UInt8) :
    Outcome.Truncated channel failure (l.turn s raw) (l.turn (s.breaking channel failure) raw) :=
  (Outcome.Truncated.of_written_eq_nil rfl).andThen (Streams.truncated_writeAll hs _)

/-- A run over streams of which one channel fails is the run without that failure up to the first
write to the channel. -/
theorem truncated_runLines (hs : s.failing = none) (stopAt : Option Nat) (read : Nat)
    (lines : List (List UInt8)) :
    Outcome.Truncated channel failure (l.runLines s stopAt read lines)
      (l.runLines (s.breaking channel failure) stopAt read lines) := by
  induction lines generalizing read with
  | nil =>
      rw [runLines, runLines]
      split
      · exact .of_written_eq_nil rfl
      · exact (Streams.truncated_writeAll hs _).andThen (.of_written_eq_nil rfl)
  | cons raw rest ih =>
      rw [runLines, runLines]
      split
      · exact .of_written_eq_nil rfl
      · exact (Streams.truncated_writeAll hs _).andThen ((truncated_turn hs raw).andThen (ih _))

theorem runLines_failure_of_working (hs : s.Working) (stopAt : Option Nat) (read : Nat)
    (lines : List (List UInt8)) : (l.runLines s stopAt read lines).failure = none := by
  induction lines generalizing read with
  | nil =>
      rw [runLines]
      split
      · rfl
      · rw [Streams.writeAll_of_working hs, Outcome.andThen_of_done, hs.inputFailure]
  | cons raw rest ih =>
      rw [runLines]
      split
      · rfl
      · rw [Streams.writeAll_of_working hs, turn_of_working hs, Outcome.andThen_of_done,
          Outcome.andThen_of_done]
        exact ih _

end Loop

/-! ## The complete lines of an input -/

namespace Streams

/-- The bytes of an input up to its last newline byte, that one included. -/
def complete (input : List UInt8) : List UInt8 := input.rdropWhile (· ≠ 10)

theorem exists_unfinished (input : List UInt8) :
    ∃ tail, input = complete input ++ tail ∧ 10 ∉ tail := by
  refine ⟨input.rtakeWhile (· ≠ 10), List.rdropWhile_append_rtakeWhile.symm, fun hmem => ?_⟩
  have hother := List.mem_rtakeWhile_imp hmem
  simp at hother

theorem complete_eq_nil_or (input : List UInt8) :
    complete input = [] ∨ ∃ front, complete input = front ++ [10] := by
  by_cases h : complete input = []
  · exact .inl h
  · have hlast : (complete input).getLast h = 10 := by
      have hnot : ¬ decide ((complete input).getLast h ≠ 10) = true :=
        List.rdropWhile_last_not (fun b : UInt8 => decide (b ≠ 10)) input h
      simpa using hnot
    refine .inr ⟨(complete input).dropLast, ?_⟩
    rw [← hlast, List.dropLast_concat_getLast h]

/-- Each line of an input that ends in a newline byte ends in one. -/
theorem Cut.getLast?_of_mem {input : List UInt8} {lines : List (List UInt8)} (h : Cut input lines)
    (hend : ∀ b ∈ input.getLast?, b = 10) {raw : List UInt8} (hraw : raw ∈ lines) :
    raw.getLast? = some 10 := by
  induction h with
  | none => cases hraw
  | last hne hnot =>
      obtain ⟨front, b, rfl⟩ : ∃ front b, _ = front ++ [b] :=
        ⟨_, _, (List.dropLast_concat_getLast hne).symm⟩
      obtain rfl : b = 10 := hend b (by simp)
      simp at hnot
  | @line line rest lines hnot _ ih =>
      rcases List.mem_cons.1 hraw with rfl | hraw
      · exact List.getLast?_concat
      · refine ih (fun b hb => hend b ?_) hraw
        cases rest with
        | nil => cases hb
        | cons first rest =>
            rw [List.getLast?_append_of_ne_nil _ (List.cons_ne_nil _ _), List.getLast?_cons_cons]
            exact hb

/-- Behind the complete lines of an input stands at most one that is not. -/
theorem rawLines_eq_complete_append (input : List UInt8) :
    ∃ rest, rawLines input = rawLines (complete input) ++ rest ∧
      (∀ raw ∈ rawLines (complete input), raw.getLast? = some 10) ∧
      ∀ raw ∈ rest, raw.getLast? ≠ some 10 := by
  obtain ⟨tail, hinput, htail⟩ := exists_unfinished input
  have hrest : ∀ raw ∈ rawLines tail, raw.getLast? ≠ some 10 := by
    intro raw hraw hlast
    by_cases hne : tail = []
    · rw [hne] at hraw
      cases hraw
    · rw [rawLines_of_notMem hne htail, List.mem_singleton] at hraw
      subst hraw
      exact htail (List.mem_of_getLast? hlast)
  refine ⟨rawLines tail, ?_, fun raw hraw => ?_, hrest⟩
  · rcases complete_eq_nil_or input with hnil | ⟨front, hfront⟩
    · rw [hnil] at hinput ⊢
      rw [hinput]
      rfl
    · rw [hfront] at hinput ⊢
      rw [hinput, List.append_assoc, List.singleton_append]
      exact rawLines_append front tail
  · refine (cut_rawLines (complete input)).getLast?_of_mem (fun b hb => ?_) hraw
    rcases complete_eq_nil_or input with hnil | ⟨front, hfront⟩
    · rw [hnil] at hb
      cases hb
    · rw [hfront, List.getLast?_concat, Option.mem_some_iff] at hb
      exact hb.symm

end Streams

namespace Loop

variable {l : Loop} {s alone : Streams}

/-- The read behind the complete lines fails, and the rest of the input is lost with it. -/
theorem runLines_of_lost (hs : s.failing = none) (hfailure : s.inputFailure = some failure)
    {stopAt : Option Nat} {read : Nat} (hstop : stopAt ≠ some read) {rest : List (List UInt8)}
    (hrest : ∀ raw ∈ rest, raw.getLast? ≠ some 10) :
    (l.runLines s stopAt read rest).written = l.promptWrites ∧
      (l.runLines s stopAt read rest).failure = some failure := by
  cases rest with
  | nil =>
      rw [runLines, if_neg hstop, Streams.writeAll_of_failing hs, Outcome.andThen_of_done]
      exact ⟨List.append_nil _, hfailure⟩
  | cons raw rest =>
      have hturn : l.turn s raw = { linesRead := 1, failure := some failure } := by
        rw [turn, if_neg (hrest raw List.mem_cons_self), hfailure]
        rfl
      rw [runLines, if_neg hstop, Streams.writeAll_of_failing hs, hturn, Outcome.andThen_of_done]
      exact ⟨List.append_nil _, rfl⟩

/-- Over an input that fails at its end a loop does with the complete lines what it does with them
alone, and ends in the failure unless it is told to stop before it gets there. -/
theorem runLines_of_inputFailure (hs : s.failing = none) (hfailure : s.inputFailure = some failure)
    (halone : alone.Working) (stopAt : Option Nat) (read : Nat) {front rest : List (List UInt8)}
    (hfront : ∀ raw ∈ front, raw.getLast? = some 10) (hrest : ∀ raw ∈ rest, raw.getLast? ≠ some 10) :
    (l.runLines s stopAt read (front ++ rest)).written =
        (l.runLines alone stopAt read front).written ∧
      ((l.runLines s stopAt read (front ++ rest)).failure = some failure ↔
        ∀ n ∈ stopAt, read ≤ n → read + front.length < n) := by
  induction front generalizing read with
  | nil =>
      by_cases hstop : stopAt = some read
      · cases rest <;> simp [runLines, hstop]
      · obtain ⟨hwritten, hlost⟩ := runLines_of_lost (l := l) hs hfailure hstop hrest
        have hprompt : (l.runLines alone stopAt read []).written = l.promptWrites := by
          rw [runLines, if_neg hstop, Streams.writeAll_of_working halone, Outcome.andThen_of_done]
          exact List.append_nil _
        rw [List.nil_append]
        refine ⟨hwritten.trans hprompt.symm, iff_of_true hlost fun n hn hle => ?_⟩
        have hne : n ≠ read := by
          rintro rfl
          exact hstop hn
        exact Nat.lt_of_le_of_ne hle (Ne.symm hne)
  | cons raw front ih =>
      rw [List.forall_mem_cons] at hfront
      by_cases hstop : stopAt = some read
      · simp [runLines, hstop]
      · obtain ⟨hwritten, hlost⟩ := ih (read + 1) hfront.2
        rw [List.cons_append, runLines, if_neg hstop, Streams.writeAll_of_failing hs,
          turn_of_failing hs (.inl hfront.1), Outcome.andThen_of_done, Outcome.andThen_of_done,
          runLines, if_neg hstop, Streams.writeAll_of_working halone, turn_of_working halone,
          Outcome.andThen_of_done, Outcome.andThen_of_done]
        refine ⟨by rw [hwritten], hlost.trans (forall_congr' fun n => forall_congr' fun hn => ?_)⟩
        have hne : n ≠ read := by
          rintro rfl
          exact hstop hn
        rw [List.length_cons]
        omega

/-- A channel that fails at every write ends a run at the first write to it: what has been written
is the longest beginning of what is written over working streams that leaves the channel alone.  An
input that fails at its end has the complete lines answered as they are by themselves, with the
prompt for the read that fails, and what stands behind the last newline byte is not looked at. -/
theorem run_failing (l : Loop) (input : List UInt8) (stopAt : Option Nat) (failure : Text) :
    let written := fun bytes => (l.run { input := bytes } stopAt).written
    let complete := Streams.complete input
    (∀ channel,
      let broken := l.run { input := input, failing := some (channel, failure) } stopAt
      broken.written = (written input).takeWhile (·.channel ≠ channel) ∧
        (broken.failure = some failure ↔ ∃ w ∈ written input, w.channel = channel) ∧
        (broken.failure = none ↔ broken.written = written input)) ∧
      (∃ tail, input = complete ++ tail ∧ 10 ∉ tail ∧
        (complete = [] ∨ ∃ front, complete = front ++ [10])) ∧
      let lost := l.run { input := input, inputFailure := some failure } stopAt
      lost.written = written complete ∧
        (lost.failure = some failure ↔
          ∀ n ∈ stopAt, (Streams.rawLines complete).length < n) := by
  intro written complete
  refine ⟨fun channel => ?_, ?_, ?_⟩
  · intro broken
    have hworking : Streams.Working { input := input } := Streams.working_input input
    have htruncated : Outcome.Truncated channel failure (l.run { input := input } stopAt) broken :=
      truncated_runLines hworking.failing stopAt 0 _
    exact htruncated.of_done (runLines_failure_of_working hworking stopAt 0 _)
  · obtain ⟨tail, hinput, htail⟩ := Streams.exists_unfinished input
    exact ⟨tail, hinput, htail, Streams.complete_eq_nil_or input⟩
  · intro lost
    obtain ⟨rest, hlines, hcomplete, hrest⟩ := Streams.rawLines_eq_complete_append input
    have hlost : lost = l.runLines { input := input, inputFailure := some failure } stopAt 0
        (Streams.rawLines complete ++ rest) := by rw [← hlines]; rfl
    obtain ⟨hwritten, hfailure⟩ := runLines_of_inputFailure (l := l)
      (s := { input := input, inputFailure := some failure }) rfl rfl
      (Streams.working_input complete) stopAt 0 hcomplete hrest
    rw [hlost]
    refine ⟨hwritten, ?_⟩
    simpa using hfailure

end Loop

end LineDispatch
