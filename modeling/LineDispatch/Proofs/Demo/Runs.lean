import LineDispatch.Demo
import LineDispatch.Proofs.Interface.Routing
import LineDispatch.Proofs.Loop.Transcript

/-!
# Lines as arguments and lines as input

Without colour, lines that are given as arguments and the same lines on the
input come to the same: each channel carries the same text, and the run over
arguments fails exactly if the loop has something to say on the channel for
messages (`Demo.runLines_eq_run`).

The two differ in the order between the channels, as the loop holds the messages
of a line back until its results are written, so that only what each channel
carries can be compared.  They also differ in what is a line at all.  The loop
passes blank lines over, ends a line at every newline and drops carriage returns
at its end, and an argument is taken as it stands; `Demo.OneLine` keeps to the
lines on which this makes no difference.
-/

namespace LineDispatch.Demo

/-- A line that the loop reads back as it was typed, and answers. -/
structure OneLine (line : Text) : Prop where
  nonblank : line.isBlank = false
  unbroken : '\n' ∉ line
  ending : line.closesWith '\r' = false

instance (line : Text) : Decidable (OneLine line) :=
  decidable_of_iff (line.isBlank = false ∧ '\n' ∉ line ∧ line.closesWith '\r' = false)
    ⟨fun ⟨hblank, hnewline, hending⟩ => ⟨hblank, hnewline, hending⟩,
      fun h => ⟨h.nonblank, h.unbroken, h.ending⟩⟩

variable {i : Interface} {line : Text} {lines : List Text}

/-! ## Reading the lines back -/

theorem OneLine.ne_nil (h : OneLine line) : line ≠ [] := by
  rintro rfl
  cases h.nonblank

theorem OneLine.newline_notMem (h : OneLine line) : 10 ∉ Utf8.encode line := fun hmem =>
  h.unbroken (Utf8.mem_of_mem_encode (by decide) hmem)

theorem OneLine.encode_ne_nil (h : OneLine line) : Utf8.encode line ≠ [] := by
  intro hnil
  have hdecoded : Utf8.lossy (Utf8.encode line) = line := Utf8.lossy_encode line
  rw [hnil] at hdecoded
  exact h.ne_nil hdecoded.symm

theorem OneLine.commandOf_encode (h : OneLine line) :
    Loop.commandOf (Utf8.encode line) = line := by
  rw [Loop.commandOf, Utf8.lossy_encode]
  apply Text.dropTrailing_eq_self
  intro c hc
  have hnewline : c ≠ '\n' := by
    rintro rfl
    exact h.unbroken (List.mem_of_getLast? hc)
  have hreturn : c ≠ '\r' := by
    rintro rfl
    have hending := h.ending
    rw [Text.closesWith, Option.mem_def.1 hc, beq_self_eq_true] at hending
    cases hending
  rw [beq_false_of_ne hreturn, beq_false_of_ne hnewline, Bool.or_false]

theorem encode_joinWith_cons (line next : Text) (rest : List Text) :
    Utf8.encode (Text.joinWith ['\n'] (line :: next :: rest)) =
      Utf8.encode line ++ 10 :: Utf8.encode (Text.joinWith ['\n'] (next :: rest)) := by
  rw [Text.joinWith, List.intercalate_cons_cons, Utf8.encode_append, Utf8.encode_append,
    List.append_assoc]
  rfl

/-- Lines that are joined by newlines are cut and decoded to what they were. -/
theorem map_commandOf_rawLines (h : ∀ line ∈ lines, OneLine line) :
    (Streams.rawLines (Utf8.encode (Text.joinWith ['\n'] lines))).map Loop.commandOf = lines := by
  induction lines with
  | nil => rfl
  | cons line rest ih =>
      have hline : OneLine line := h line List.mem_cons_self
      -- Only the last line has no newline byte behind it.
      cases rest with
      | nil =>
          have hjoined : Text.joinWith ['\n'] [line] = line := List.intercalate_singleton
          rw [hjoined, Streams.rawLines_of_notMem hline.encode_ne_nil hline.newline_notMem,
            List.map_singleton, hline.commandOf_encode]
      | cons next rest =>
          have hrest := ih fun other hother => h other (List.mem_cons_of_mem _ hother)
          have hcommand : Loop.commandOf (Utf8.encode line ++ [10]) = line := by
            rw [Loop.commandOf_concat (.inl rfl), hline.commandOf_encode]
          rw [encode_joinWith_cons, Streams.rawLines_append_newline hline.newline_notMem,
            List.map_cons, hcommand, hrest]

/-! ## One channel of what is written -/

theorem writtenTo_append (channel : Channel) (front back : List Write) :
    writtenTo channel (front ++ back) = writtenTo channel front ++ writtenTo channel back := by
  rw [writtenTo, List.filter_append, List.flatMap_append]
  rfl

theorem writtenTo_flatMap (channel : Channel) (answer : Text → List Write) (lines : List Text) :
    writtenTo channel (lines.flatMap answer) =
      lines.flatMap fun line => writtenTo channel (answer line) := by
  rw [writtenTo, List.filter_flatMap, List.flatMap_assoc]
  rfl

theorem inLines_flatMap (texts : Text → List Text) (lines : List Text) :
    inLines (lines.flatMap texts) = lines.flatMap fun line => inLines (texts line) :=
  List.flatMap_assoc

theorem inLines_eq_nil_iff {texts : List Text} : inLines texts = [] ↔ texts = [] := by
  cases texts with
  | nil => exact iff_of_true rfl rfl
  | cons t rest => simp [inLines]

theorem writtenTo_inLines (channel other : Channel) (texts : List Text) :
    writtenTo channel (texts.map fun t => ⟨other, t ++ ['\n']⟩) =
      if other = channel then inLines texts else [] := by
  split_ifs with h <;> simp [writtenTo, inLines, List.filter_map, Function.comp_def, h,
    List.flatMap_map]

/-! ## A run over arguments -/

theorem runLines_out (i : Interface) (p : Painter) (lines : List Text) :
    (runLines i p lines).out =
      lines.flatMap fun line => inLines ((i.handle line).results.filter (· ≠ [])) := by
  simp only [runLines, List.flatMap_map, List.filter_flatMap]
  exact inLines_flatMap _ lines

theorem runLines_err (i : Interface) (p : Painter) (lines : List Text) :
    (runLines i p lines).err =
      lines.flatMap fun line => inLines ((i.handle line).messages.map p.error) := by
  simp only [runLines, List.flatMap_map, List.map_flatMap]
  exact inLines_flatMap _ lines

/-- The run fails exactly if it has a message, were it an empty one. -/
theorem runLines_code (i : Interface) (p : Painter) (lines : List Text) :
    (runLines i p lines).code = if (runLines i p lines).err = [] then 0 else 1 := by
  simp only [runLines, inLines_eq_nil_iff, List.map_eq_nil_iff]

/-! ## A run of the loop -/

/-- The loop around an interface that neither prompts nor paints. -/
def bareLoop (i : Interface) : Loop := { interface := i }

theorem paint_bareLoop (message : Text) : (bareLoop i).paint message = message := by
  rw [Loop.paint]
  split <;> rfl

/-- On each channel the loop writes the part of the answer that belongs there. -/
theorem writtenTo_respond (i : Interface) (line : Text) :
    writtenTo .out ((bareLoop i).respond line) =
        inLines ((i.handle line).results.filter (· ≠ [])) ∧
      writtenTo .err ((bareLoop i).respond line) = inLines (i.handle line).messages := by
  rw [Loop.respond]
  split
  · rename_i hhelp
    have hanswer : i.handle line = { results := [i.helpListing .plain] } := if_pos hhelp
    have hlisting : i.helpListing .plain ≠ [] := List.append_ne_nil_of_left_ne_nil (by decide) _
    simp [hanswer, hlisting, writtenTo, inLines, bareLoop]
  · simp only [paint_bareLoop, writtenTo_append, writtenTo_inLines, if_true, reduceCtorEq, if_false,
      List.append_nil, List.nil_append]
    exact ⟨rfl, rfl⟩

theorem run_bareLoop (h : ∀ line ∈ lines, OneLine line) :
    (bareLoop i).run { input := Utf8.encode (Text.joinWith ['\n'] lines) } none =
      { written := lines.flatMap (bareLoop i).respond, linesRead := lines.length } := by
  generalize hraws : Streams.rawLines (Utf8.encode (Text.joinWith ['\n'] lines)) = raws
  have hcommands : raws.map Loop.commandOf = lines := by
    rw [← hraws]
    exact map_commandOf_rawLines h
  -- None of the commands is blank, so that each line is answered.
  have hanswer : ∀ raw ∈ raws,
      (bareLoop i).respondRaw raw = (bareLoop i).respond (Loop.commandOf raw) := by
    intro raw hraw
    have hmem : Loop.commandOf raw ∈ lines := by
      rw [← hcommands]
      exact List.mem_map_of_mem hraw
    rw [Loop.respondRaw, (h _ hmem).nonblank]
    rfl
  have hwritten : (bareLoop i).transcript raws = lines.flatMap (bareLoop i).respond := by
    calc
      (bareLoop i).transcript raws = raws.flatMap (bareLoop i).respondRaw := List.append_nil _
      _ = raws.flatMap fun raw => (bareLoop i).respond (Loop.commandOf raw) :=
        List.flatMap_congr hanswer
      _ = (raws.map Loop.commandOf).flatMap (bareLoop i).respond := (List.flatMap_map ..).symm
      _ = lines.flatMap (bareLoop i).respond := by rw [hcommands]
  have hcount : raws.length = lines.length := by rw [← hcommands, List.length_map]
  rw [Loop.run_eq_transcript, hraws, hwritten, hcount]

/-- Lines come to the same on each channel whether they are arguments or stand on the input, and
the run over arguments fails exactly if the loop writes a message. -/
theorem runLines_eq_run (i : Interface) (h : ∀ line ∈ lines, OneLine line) :
    let report := runLines i .plain lines
    let loop : Loop := { interface := i }
    let run := loop.run { input := Utf8.encode (Text.joinWith ['\n'] lines) } none
    run.failure = none ∧
      report.out = writtenTo .out run.written ∧
      report.err = writtenTo .err run.written ∧
      report.code = (if writtenTo .err run.written = [] then 0 else 1) := by
  intro report loop run
  have hrun : run = _ := run_bareLoop h
  have hout : report.out = writtenTo .out run.written := by
    rw [hrun, writtenTo_flatMap, runLines_out]
    exact List.flatMap_congr fun line _ => (writtenTo_respond i line).1.symm
  have herr : report.err = writtenTo .err run.written := by
    rw [hrun, writtenTo_flatMap, runLines_err]
    refine List.flatMap_congr fun line _ => ?_
    rw [(writtenTo_respond i line).2]
    exact congrArg inLines (List.map_id _)
  refine ⟨by rw [hrun], hout, herr, ?_⟩
  rw [← herr]
  exact runLines_code i .plain lines

/-- A line that one registry fails on and another runs, and a line for the listing. -/
theorem runLines_eq_run_goInterface :
    let lines : List Text := ["go", "help"]
    let loop : Loop := { interface := Interface.goInterface }
    let input := Utf8.encode (Text.joinWith ['\n'] lines)
    let written := (loop.run { input := input } none).written
    (∀ line ∈ lines, OneLine line) ∧
      writtenTo .out written = "fine\nAll available commands:\n- stop\n- go\n- go\n".toList ∧
      writtenTo .err written = "broken\n".toList ∧
      (runLines Interface.goInterface .plain lines).code = 1 := by
  intro lines loop input written
  have hlines : ∀ line ∈ lines, OneLine line := by decide
  obtain ⟨-, hout, herr, hcode⟩ := runLines_eq_run Interface.goInterface hlines
  have hmessage : writtenTo .err written = "broken\n".toList := by
    refine herr.symm.trans ?_
    decide +kernel
  refine ⟨hlines, hout.symm.trans ?_, hmessage, hcode.trans ?_⟩
  · decide +kernel
  · exact if_neg (by rw [hmessage]; decide)

end LineDispatch.Demo
