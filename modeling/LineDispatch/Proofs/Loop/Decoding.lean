import LineDispatch.Proofs.Loop.Transcript
import LineDispatch.Proofs.Text.Replacement

/-!
# Decoding lines apart

The loop cuts its input into lines while it is bytes, and decodes each line on
its own.  It could as well decode the whole input and cut the text: the commands
are the same (`Loop.filterMap_dispatched`), be the bytes of a character cut short
by a newline or by the end of the input, or be they none of any character.  For a
newline byte is a newline of the text wherever it stands
(`Utf8.lossy_append_ascii`), and no other bytes are decoded to one
(`Utf8.mem_of_mem_lossy`), so that the places to cut at are the same.
-/

namespace LineDispatch

/-- The commands in a text: it is cut at its newlines, the carriage returns at the end of each line
are dropped, and blank lines are left out. -/
def Text.commands (t : Text) : List Text :=
  ((t.splitOn '\n').map (dropTrailing fun c => c == '\r' || c == '\n')).filter fun line =>
    !line.isBlank

theorem Text.commands_append_newline (s t : Text) :
    (s ++ '\n' :: t).commands = s.commands ++ t.commands := by
  have hcut : (s ++ '\n' :: t).splitOn '\n' = s.splitOn '\n' ++ t.splitOn '\n' :=
    List.splitOnP_append_cons s t (beq_self_eq_true '\n')
  rw [commands, hcut, List.map_append, List.filter_append]
  rfl

namespace Loop

/-- The command that the bytes of a line are answered as; a blank line has none. -/
def dispatched? (raw : List UInt8) : Option Text :=
  let line := commandOf raw
  if line.isBlank then none else some line

variable {l : Loop} {raw : List UInt8}

theorem respondRaw_eq_dispatched (l : Loop) (raw : List UInt8) :
    l.respondRaw raw = (dispatched? raw).toList.flatMap l.respond := by
  unfold respondRaw dispatched?
  dsimp only
  split
  · rfl
  · exact (List.flatMap_singleton ..).symm

theorem dispatched_concat (raw : List UInt8) : dispatched? (raw ++ [10]) = dispatched? raw := by
  rw [dispatched?, commandOf_concat (.inl rfl)]
  rfl

/-- Bytes without a newline are one line, if any. -/
theorem commands_lossy_of_notMem (h : 10 ∉ raw) :
    (Utf8.lossy raw).commands = (dispatched? raw).toList := by
  have hunbroken : '\n' ∉ Utf8.lossy raw := fun hmem =>
    h (Utf8.mem_of_mem_lossy (b := 10) (by decide) hmem)
  have hline : (Utf8.lossy raw).commands = [commandOf raw].filter fun line => !line.isBlank := by
    rw [Text.commands, List.splitOn_eq_singleton hunbroken, List.map_singleton]
    rfl
  rw [hline, dispatched?]
  cases hblank : (commandOf raw).isBlank <;> simp [hblank]

/-- The commands of the lines that bytes are cut into are the commands of the text that they are
decoded to. -/
theorem filterMap_dispatched (input : List UInt8) :
    (Streams.rawLines input).filterMap dispatched? = (Utf8.lossy input).commands := by
  have hcut := Streams.cut_rawLines input
  generalize Streams.rawLines input = lines at hcut
  induction hcut with
  | none => rfl
  | last _ h =>
      rw [commands_lossy_of_notMem h, List.filterMap_cons, List.filterMap_nil]
      cases dispatched? _ <;> rfl
  | @line line rest lines h _ ih =>
      have hdecoded :
          Utf8.lossy (line ++ 10 :: rest) = Utf8.lossy line ++ '\n' :: Utf8.lossy rest :=
        Utf8.lossy_append_ascii (by decide) line rest
      rw [hdecoded, Text.commands_append_newline, commands_lossy_of_notMem h, ← ih,
        List.filterMap_cons, dispatched_concat]
      cases dispatched? line <;> rfl

/-- A run answers its commands in turn, and these are the commands in the one text that the whole
input is decoded to.  What stands before a newline byte and what stands behind it have their
commands apart, so that no bytes of one line touch the command of another. -/
theorem run_decoded (l : Loop) (input : List UInt8) :
    let run := l.run { input := input } none
    let dispatched := fun bytes : List UInt8 => (Streams.rawLines bytes).filterMap dispatched?
    run.failure = none ∧
      run.written = (Streams.rawLines input).flatMap (fun raw =>
        l.promptWrites ++ (dispatched? raw).toList.flatMap l.respond) ++ l.promptWrites ∧
      (∃ text, (∀ t, Utf8.Decoded input t ↔ t = text) ∧
        dispatched input =
          ((text.splitOn '\n').map (Text.dropTrailing fun c => c == '\r' || c == '\n')).filter
            fun line => !line.isBlank) ∧
      ∀ x y, dispatched (x ++ 10 :: y) = dispatched x ++ dispatched y := by
  intro run dispatched
  have hrun : run = _ := run_eq_transcript l input
  have hdispatched : ∀ bytes, dispatched bytes = (Utf8.lossy bytes).commands :=
    filterMap_dispatched
  refine ⟨by rw [hrun], ?_, ⟨Utf8.lossy input, fun t => Utf8.decoded_iff, hdispatched input⟩,
    fun x y => ?_⟩
  · simp only [hrun, transcript, respondRaw_eq_dispatched]
  · have hdecoded : Utf8.lossy (x ++ 10 :: y) = Utf8.lossy x ++ '\n' :: Utf8.lossy y :=
      Utf8.lossy_append_ascii (by decide) x y
    rw [hdispatched, hdispatched, hdispatched, hdecoded, Text.commands_append_newline]

-- The first line ends inside a character of two bytes, and the last inside one of three.
example :
    (Streams.rawLines [0x61, 0xC3, 10, 0x62, 0xE2, 0x82]).filterMap dispatched? =
      [['a', '\uFFFD'], ['b', '\uFFFD']] := by
  decide +kernel

end Loop

end LineDispatch
