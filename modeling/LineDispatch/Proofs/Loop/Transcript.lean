import LineDispatch.Proofs.Loop.Cut
import LineDispatch.Proofs.Text.Decoding
import LineDispatch.Proofs.Text.Trim

/-!
# What a loop writes

Over streams that do not fail, and with nobody to stop it, a loop writes its
prompt and the answer of a line for each line of its input, one line after the
other, and the prompt once more for the read that finds the end
(`Loop.runLines_of_working`).  The answer of a line depends on nothing but its
bytes, and not even on how the line ends: the bytes of a carriage return and of
a newline are characters wherever they stand, and those at the end of a line are
dropped (`Loop.commandOf_concat`).

Together with the cutting of the input this gives the transcript of a run
(`Loop.run_transcript`), and that a run over an input that goes on behind a
newline byte is a run over what stands before and then one over what stands
behind.
-/

namespace LineDispatch

theorem Outcome.andThen_of_done (written : List Write) (read : Nat) (b : Outcome) :
    ({ written := written, linesRead := read } : Outcome).andThen b =
      ⟨written ++ b.written, read + b.linesRead, b.failure⟩ := rfl

namespace Streams

/-- Whether no stream fails. -/
structure Working (s : Streams) : Prop where
  failing : s.failing = none
  inputFailure : s.inputFailure = none

variable {s : Streams}

theorem working_input (input : List UInt8) : Working { input := input } := ⟨rfl, rfl⟩

theorem writeAll_of_failing (hs : s.failing = none) (writes : List Write) :
    s.writeAll writes = { written := writes } := by
  induction writes with
  | nil => rfl
  | cons w rest ih =>
      have hwrite : s.write w = { written := [w] } := by rw [write, hs]
      rw [writeAll, hwrite, ih, Outcome.andThen_of_done]
      rfl

theorem writeAll_of_working (hs : s.Working) (writes : List Write) :
    s.writeAll writes = { written := writes } := writeAll_of_failing hs.failing writes

end Streams

namespace Loop

variable {l : Loop} {s : Streams}

/-! ## The answer of a line -/

/-- Carriage returns and newlines at the end of a line are no part of its command. -/
theorem commandOf_concat {b : UInt8} (hb : b = 10 ∨ b = 13) (raw : List UInt8) :
    commandOf (raw ++ [b]) = commandOf raw := by
  have hascii : b.toNat < 0x80 := by rcases hb with rfl | rfl <;> decide
  have hdropped : (Char.ofNat b.toNat == '\r' || Char.ofNat b.toNat == '\n') = true := by
    rcases hb with rfl | rfl <;> decide
  have hdecoded : Utf8.lossy (raw ++ [b]) = Utf8.lossy raw ++ [Char.ofNat b.toNat] :=
    Utf8.lossy_append_ascii hascii raw []
  rw [commandOf, hdecoded, Text.dropTrailing_concat hdropped]
  rfl

theorem respondRaw_eq_of_commandOf {raw raw' : List UInt8} (h : commandOf raw = commandOf raw') :
    l.respondRaw raw = l.respondRaw raw' := by
  rw [respondRaw, respondRaw, h]

/-- A line is answered in the same way however it ends. -/
theorem respondRaw_lineEnd (l : Loop) (raw : List UInt8) :
    l.respondRaw (raw ++ [10]) = l.respondRaw raw ∧
      l.respondRaw (raw ++ [13, 10]) = l.respondRaw raw := by
  have hreturn : commandOf (raw ++ [13, 10]) = commandOf raw := by
    calc
      commandOf (raw ++ [13, 10]) = commandOf ((raw ++ [13]) ++ [10]) := by
        rw [List.append_assoc, List.singleton_append]
      _ = commandOf (raw ++ [13]) := commandOf_concat (.inl rfl) _
      _ = commandOf raw := commandOf_concat (.inr rfl) raw
  exact ⟨respondRaw_eq_of_commandOf (commandOf_concat (.inl rfl) raw),
    respondRaw_eq_of_commandOf hreturn⟩

/-! ## The run -/

/-- The prompt and the answer of each line, and the prompt for the read that finds the end. -/
def transcript (l : Loop) (lines : List (List UInt8)) : List Write :=
  lines.flatMap (fun raw => l.promptWrites ++ l.respondRaw raw) ++ l.promptWrites

/-- A line is read and answered if the input does not fail in it. -/
theorem turn_of_failing (hs : s.failing = none) {raw : List UInt8}
    (hread : raw.getLast? = some 10 ∨ s.inputFailure = none) :
    l.turn s raw = { written := l.respondRaw raw, linesRead := 1 } := by
  have hfailure : (if raw.getLast? = some 10 then none else s.inputFailure) = none := by
    rcases hread with hlast | hnone
    · exact if_pos hlast
    · rw [hnone, ite_self]
  rw [turn, hfailure, Streams.writeAll_of_failing hs, Outcome.andThen_of_done]
  rfl

theorem turn_of_working (hs : s.Working) (raw : List UInt8) :
    l.turn s raw = { written := l.respondRaw raw, linesRead := 1 } :=
  turn_of_failing hs.failing (.inr hs.inputFailure)

theorem runLines_of_working (hs : s.Working) (read : Nat) (lines : List (List UInt8)) :
    l.runLines s none read lines =
      { written := l.transcript lines, linesRead := lines.length } := by
  induction lines generalizing read with
  | nil =>
      rw [runLines, if_neg (by simp), Streams.writeAll_of_working hs, hs.inputFailure]
      simp [Outcome.andThen, transcript]
  | cons raw rest ih =>
      rw [runLines, if_neg (by simp), Streams.writeAll_of_working hs, turn_of_working hs,
        ih (read + 1), Outcome.andThen_of_done, Outcome.andThen_of_done]
      simp [transcript, Nat.add_comm]

theorem run_eq_transcript (l : Loop) (input : List UInt8) :
    l.run { input := input } none =
      { written := l.transcript (Streams.rawLines input)
        linesRead := (Streams.rawLines input).length } :=
  runLines_of_working (Streams.working_input input) 0 _

/-- Lines behind others are told in a run of their own, in the place of the last prompt. -/
theorem transcript_append (l : Loop) (front back : List (List UInt8)) :
    l.transcript (front ++ back) =
      front.flatMap (fun raw => l.promptWrites ++ l.respondRaw raw) ++ l.transcript back := by
  rw [transcript, List.flatMap_append, List.append_assoc]
  rfl

/-- A run writes the prompt and the answer of each line of its input in turn, and the prompt once
more, and it does not fail.  The answer of a line is told by its command alone, so that it does not
matter how the line ends, and what is written for an input that goes on behind a newline is what is
written for its two parts, but for the prompt between them. -/
theorem run_transcript (l : Loop) (input : List UInt8) :
    let prompt : List Write := (l.prompt.map fun p => ⟨.out, l.painter.prompt p⟩).toList
    let written := fun bytes : List UInt8 => (l.run { input := bytes } none).written
    (∀ lines, Streams.Cut input lines ↔ lines = Streams.rawLines input) ∧
      (l.run { input := input } none).failure = none ∧
      written input =
        (Streams.rawLines input).flatMap (fun raw => prompt ++ l.respondRaw raw) ++ prompt ∧
      (∀ raw, l.respondRaw raw =
        let line := commandOf raw
        let answer := l.interface.handle line
        if line.isBlank then []
        else if l.interface.isHelp line then
          [⟨.out, l.interface.helpListing l.painter ++ ['\n']⟩]
        else
          (answer.results.filter (· ≠ [])).map (fun result => ⟨.out, result ++ ['\n']⟩) ++
            answer.messages.map fun message => ⟨.err, l.paint message ++ ['\n']⟩) ∧
      (∀ raw, l.respondRaw (raw ++ [10]) = l.respondRaw raw ∧
        l.respondRaw (raw ++ [13, 10]) = l.respondRaw raw) ∧
      ∀ x y, ∃ before, written (x ++ [10]) = before ++ prompt ∧
        written (x ++ 10 :: y) = before ++ written y := by
  intro prompt written
  have hprompt : l.promptWrites = prompt := by
    unfold promptWrites prompt
    cases l.prompt <;> rfl
  have hwritten : ∀ bytes, written bytes = l.transcript (Streams.rawLines bytes) := fun bytes =>
    congrArg Outcome.written (run_eq_transcript l bytes)
  refine ⟨fun lines => Streams.cut_iff, ?_, ?_, fun raw => rfl, respondRaw_lineEnd l, fun x y => ?_⟩
  · rw [run_eq_transcript]
  · rw [hwritten, transcript, hprompt]
  · refine ⟨(Streams.rawLines (x ++ [10])).flatMap fun raw => prompt ++ l.respondRaw raw, ?_, ?_⟩
    · rw [hwritten, transcript, hprompt]
    · rw [hwritten, hwritten, Streams.rawLines_append, transcript_append, hprompt]

-- Three reads are prompted for: a blank line has no answer, and the last read finds the end.
example :
    let l : Loop := { interface := { help := true }, prompt := some "> ".toList }
    (l.run { input := Utf8.encode "help\r\n \n" } none).written =
      [⟨.out, "> "⟩, ⟨.out, "All available commands:\n"⟩, ⟨.out, "> "⟩, ⟨.out, "> "⟩] := by
  decide +kernel

end Loop

end LineDispatch
