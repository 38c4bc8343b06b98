import Mathlib.Data.List.Forall2
import LineDispatch.Loop
import LineDispatch.Proofs.Painter.Codes

/-!
# Runs with and without colour

A loop paints its prompt, the listing and the messages, and nothing else.  All
of these are painted whole, so that a run in colour and the same run without
differ in the codes alone: each write of the one is a write of the other to the
same channel, with whole codes in it (`Write.Shows`).  Whether a stream fails,
how many lines are read and which of them are answered does not depend on what
is written, and so the runs go on side by side to the end
(`Loop.shows_runLines`).
-/

namespace LineDispatch

open ColorCode (escape)

/-! ## The lines of a text -/

namespace Text

theorem mem_of_mem_finish {held : Text} {c : Char} (hc : c ∈ lines.finish held) : c ∈ held := by
  unfold lines.finish at hc
  split at hc
  · exact List.mem_cons_of_mem _ (List.mem_reverse.1 hc)
  · exact List.mem_reverse.1 hc

theorem mem_or_mem_of_mem_go {held t line : Text} (h : line ∈ lines.go held t) {c : Char}
    (hc : c ∈ line) : c ∈ held ∨ c ∈ t := by
  induction held, t using lines.go.induct with
  | case1 => cases h
  | case2 held hne =>
      rw [lines.go] at h
      · obtain rfl := List.mem_singleton.1 h
        exact .inl (List.mem_reverse.1 hc)
      · exact hne
  | case3 held rest ih =>
      rw [lines.go] at h
      rcases List.mem_cons.1 h with rfl | h
      · exact .inl (mem_of_mem_finish hc)
      · rcases ih h with hnil | hrest
        · cases hnil
        · exact .inr (List.mem_cons_of_mem _ hrest)
  | case4 held d rest hd ih =>
      rw [lines.go] at h
      · rcases ih h with hheld | hrest
        · rcases List.mem_cons.1 hheld with rfl | hheld
          · exact .inr List.mem_cons_self
          · exact .inl hheld
        · exact .inr (List.mem_cons_of_mem _ hrest)
      · exact hd

/-- The lines of a text have no other characters than the text. -/
theorem mem_of_mem_lines {t line : Text} (h : line ∈ t.lines) {c : Char} (hc : c ∈ line) :
    c ∈ t := by
  rcases mem_or_mem_of_mem_go h hc with hnil | ht
  · cases hnil
  · exact ht

end Text

/-! ## What is written, with codes and without -/

/-- Whether a write is another one with codes in its text. -/
structure Write.Shows (painted plain : Write) : Prop where
  channel : painted.channel = plain.channel
  text : painted.text.Shows plain.text

/-- Whether a stretch of a run is another one with codes in what is written. -/
structure Outcome.Shows (painted plain : Outcome) : Prop where
  written : List.Forall₂ Write.Shows painted.written plain.written
  linesRead : painted.linesRead = plain.linesRead
  failure : painted.failure = plain.failure

/-- A write with every code in its text left out. -/
def Write.uncolored (w : Write) : Write := { w with text := w.text.uncolored }

theorem Write.Shows.uncolored {painted plain : Write} (h : painted.Shows plain) :
    painted.uncolored = plain := by
  rw [Write.uncolored, h.channel, h.text.uncolored]

theorem shows_flatMap_text {writes writes' : List Write}
    (h : List.Forall₂ Write.Shows writes writes') :
    Text.Shows (writes.flatMap (·.text)) (writes'.flatMap (·.text)) := by
  induction h with
  | nil => exact .of_escape_notMem List.not_mem_nil
  | cons h _ ih => exact h.text.append ih

namespace Outcome

theorem Shows.map_uncolored {painted plain : Outcome} (h : painted.Shows plain) :
    painted.written.map Write.uncolored = plain.written := by
  rw [← List.forall₂_eq_eq_eq, List.forall₂_map_left_iff]
  exact h.written.imp fun _ _ => Write.Shows.uncolored

/-- The channels may be looked at together or one at a time. -/
theorem Shows.filter_channel {painted plain : Outcome} (h : painted.Shows plain)
    (keep : Channel → Bool) :
    List.Forall₂ Write.Shows (painted.written.filter (keep ·.channel))
      (plain.written.filter (keep ·.channel)) :=
  List.rel_filter (fun _ _ hw => by simp only [hw.channel]) h.written

theorem Shows.of_written_eq_nil {o : Outcome} (h : o.written = []) : o.Shows o where
  written := by
    rw [h]
    exact .nil
  linesRead := rfl
  failure := rfl

theorem Shows.andThen {a a' b b' : Outcome} (ha : a.Shows a') (hb : b.Shows b') :
    (a.andThen b).Shows (a'.andThen b') := by
  unfold Outcome.andThen
  rw [ha.failure]
  split
  · exact ha
  · exact ⟨List.rel_append ha.written hb.written, congrArg₂ _ ha.linesRead hb.linesRead, hb.failure⟩

end Outcome

namespace Streams

/-- Whether a write fails does not depend on its text. -/
theorem shows_write (s : Streams) {w w' : Write} (h : w.Shows w') :
    (s.write w).Shows (s.write w') := by
  have hdone : Outcome.Shows { written := [w] } { written := [w'] } := ⟨.cons h .nil, rfl, rfl⟩
  unfold write
  rw [h.channel]
  split
  · split
    · exact .of_written_eq_nil rfl
    · exact hdone
  · exact hdone

theorem shows_writeAll (s : Streams) {writes writes' : List Write}
    (h : List.Forall₂ Write.Shows writes writes') :
    (s.writeAll writes).Shows (s.writeAll writes') := by
  induction h with
  | nil => exact .of_written_eq_nil rfl
  | cons h _ ih => exact (s.shows_write h).andThen ih

end Streams

/-! ## The writes of a loop -/

/-- Whether no escape character stands in the prompt of a loop, in a name or a usage, or in what any
of the lines comes to. -/
structure Loop.EscapeFree (l : Loop) (lines : List (List UInt8)) : Prop where
  prompt : ∀ p ∈ l.prompt, escape ∉ p
  name : ∀ r ∈ l.interface.handlers, ∀ entry ∈ r.entries, escape ∉ entry.1
  usage : ∀ r ∈ l.interface.handlers, ∀ entry ∈ r.entries, escape ∉ entry.2.usage
  result : ∀ raw ∈ lines, ∀ t ∈ (l.interface.handle (Loop.commandOf raw)).results, escape ∉ t
  message : ∀ raw ∈ lines, ∀ t ∈ (l.interface.handle (Loop.commandOf raw)).messages, escape ∉ t

/-- The loop with the painter that leaves all texts as they are. -/
def Loop.uncolored (l : Loop) : Loop := { l with painter := .plain }

namespace Interface

variable {i : Interface}

theorem shows_listingEntry (p : Painter) {name : Text} {command : Command}
    (hname : escape ∉ name) (husage : escape ∉ command.usage) :
    (listingEntry p name command).Shows (listingEntry .plain name command) := by
  have hbullet : Text.Shows "\n- " "\n- " := .of_escape_notMem (by decide)
  have hindent : Text.Shows "\n    " "\n    " := .of_escape_notMem (by decide)
  refine (hbullet.append (.of_escape_notMem hname)).append (Text.shows_flatMap fun line hline => ?_)
  have hfree : escape ∉ line := fun hmem => husage (Text.mem_of_mem_lines hline hmem)
  exact hindent.append (p.shows_wrap hfree (by decide))

theorem shows_helpListing (p : Painter)
    (hname : ∀ r ∈ i.handlers, ∀ entry ∈ r.entries, escape ∉ entry.1)
    (husage : ∀ r ∈ i.handlers, ∀ entry ∈ r.entries, escape ∉ entry.2.usage) :
    (i.helpListing p).Shows (i.helpListing .plain) := by
  have hheader := p.shows_wrap (t := "All available commands:") (by decide)
    (show ColorCode.bold ∈ ColorCode.all by decide)
  refine hheader.append (Text.shows_flatMap fun r hr => Text.shows_flatMap fun entry hentry => ?_)
  exact shows_listingEntry p (hname r hr entry hentry) (husage r hr entry hentry)

end Interface

namespace Loop

variable {l : Loop}

/-- Whichever of the two colours a message is painted in. -/
theorem shows_paint {m : Text} (hm : escape ∉ m) : (l.paint m).Shows m := by
  unfold paint
  split
  · exact l.painter.shows_wrap hm (by decide)
  · exact l.painter.shows_wrap hm (by decide)

theorem uncolored_paint (l : Loop) (m : Text) : l.uncolored.paint m = m := by
  unfold paint
  split
  · rfl
  · rfl

/-- A line of output ends behind the last code in it. -/
theorem shows_line {painted plain : Text} (channel : Channel) (h : painted.Shows plain) :
    Write.Shows ⟨channel, painted ++ ['\n']⟩ ⟨channel, plain ++ ['\n']⟩ :=
  ⟨rfl, h.append (.of_escape_notMem (by decide))⟩

theorem shows_promptWrites (hprompt : ∀ p ∈ l.prompt, escape ∉ p) :
    List.Forall₂ Write.Shows l.promptWrites l.uncolored.promptWrites := by
  unfold promptWrites uncolored
  cases hsome : l.prompt with
  | none => exact .nil
  | some p =>
      have hpainted := l.painter.shows_wrapBoth (hprompt p hsome)
        (show ColorCode.bold ∈ ColorCode.all by decide)
        (show ColorCode.cyan ∈ ColorCode.all by decide)
      exact .cons ⟨rfl, hpainted⟩ .nil

/-- The listing takes a way of its own, and the results are written as they are. -/
theorem shows_respond {raw : List UInt8} {lines : List (List UInt8)}
    (h : l.EscapeFree (raw :: lines)) :
    List.Forall₂ Write.Shows (l.respond (commandOf raw)) (l.uncolored.respond (commandOf raw)) := by
  have hinterface : l.uncolored.interface = l.interface := rfl
  unfold respond
  simp only [hinterface, uncolored_paint]
  split
  · exact .cons (shows_line .out (Interface.shows_helpListing l.painter h.name h.usage)) .nil
  · refine List.rel_append ?_ ?_
    · rw [List.forall₂_map_left_iff, List.forall₂_map_right_iff, List.forall₂_same]
      intro result hmem
      have hfree := h.result raw List.mem_cons_self result (List.mem_of_mem_filter hmem)
      exact shows_line .out (.of_escape_notMem hfree)
    · rw [List.forall₂_map_left_iff, List.forall₂_map_right_iff, List.forall₂_same]
      intro m hm
      exact shows_line .err (shows_paint (h.message raw List.mem_cons_self m hm))

/-! ## The run -/

variable {s : Streams} {raw : List UInt8} {lines : List (List UInt8)}

theorem EscapeFree.tail (h : l.EscapeFree (raw :: lines)) : l.EscapeFree lines :=
  { h with
    result := fun _ hmem => h.result _ (List.mem_cons_of_mem _ hmem)
    message := fun _ hmem => h.message _ (List.mem_cons_of_mem _ hmem) }

theorem shows_turn (s : Streams) (h : l.EscapeFree (raw :: lines)) :
    (l.turn s raw).Shows (l.uncolored.turn s raw) := by
  refine Outcome.Shows.andThen (.of_written_eq_nil rfl) (s.shows_writeAll ?_)
  simp only [respondRaw]
  split
  · exact .nil
  · exact shows_respond h

/-- The run in colour is the run without, with codes in what it writes. -/
theorem shows_runLines (s : Streams) (stopAt : Option Nat) (read : Nat) (h : l.EscapeFree lines) :
    (l.runLines s stopAt read lines).Shows (l.uncolored.runLines s stopAt read lines) := by
  induction lines generalizing read with
  | nil =>
      rw [runLines, runLines]
      split
      · exact .of_written_eq_nil rfl
      · exact (s.shows_writeAll (shows_promptWrites h.prompt)).andThen (.of_written_eq_nil rfl)
  | cons raw rest ih =>
      rw [runLines, runLines]
      split
      · exact .of_written_eq_nil rfl
      · exact (s.shows_writeAll (shows_promptWrites h.prompt)).andThen
          ((shows_turn s h).andThen (ih _ h.tail))

/-- A run in colour reads the same lines as the run without and ends in the same way, and it writes
to the same channels in the same order.  What it writes is left as the run without writes it, where
there is no escape character, when the codes are taken out: out of each write, or out of all that is
written to some of the channels in one piece. -/
theorem run_uncolored (l : Loop) (s : Streams) (stopAt : Option Nat)
    (h : l.EscapeFree (Streams.rawLines s.input)) :
    let painted := l.run s stopAt
    let plain := l.uncolored.run s stopAt
    painted.linesRead = plain.linesRead ∧ painted.failure = plain.failure ∧
      painted.written.map (·.channel) = plain.written.map (·.channel) ∧
      painted.written.map Write.uncolored = plain.written ∧
      (∀ keep : Channel → Bool,
        Text.uncolored ((painted.written.filter (keep ·.channel)).flatMap (·.text)) =
          (plain.written.filter (keep ·.channel)).flatMap (·.text)) ∧
      ∀ w ∈ plain.written, escape ∉ w.text := by
  intro painted plain
  have hrun : painted.Shows plain := shows_runLines s stopAt 0 h
  refine ⟨hrun.linesRead, hrun.failure, ?_, hrun.map_uncolored, fun keep => ?_, fun w hw => ?_⟩
  · rw [← hrun.map_uncolored, List.map_map]
    rfl
  · exact (shows_flatMap_text (hrun.filter_channel keep)).uncolored
  · have hall := shows_flatMap_text hrun.written
    exact fun hmem => hall.escape_notMem (List.mem_flatMap.2 ⟨w, hw, hmem⟩)

/-- A loop in colour with a prompt, a command that fails, and the word for help. -/
def paintedLoop : Loop where
  interface :=
    { handlers := [(Registry.register {} "go"
        (.simple (fun _ => .error "No route.") "go <place>")).2]
      help := true }
  painter := ⟨true⟩
  prompt := some "> ".toList

/-- The listing, a failure and an unknown command in colour. -/
theorem run_uncolored_paintedLoop :
    let s : Streams := { input := Utf8.encode "help\ngo\nno" }
    let painted := paintedLoop.run s none
    paintedLoop.EscapeFree (Streams.rawLines s.input) ∧
      painted.written.take 4 =
        [⟨.out, "\x1b[1m\x1b[36m> \x1b[0m"⟩,
          ⟨.out, "\x1b[1mAll available commands:\x1b[0m\n- go\n    \x1b[2mgo <place>\x1b[0m\n"⟩,
          ⟨.out, "\x1b[1m\x1b[36m> \x1b[0m"⟩, ⟨.err, "\x1b[31mNo route.\x1b[0m\n"⟩] ∧
      painted.written.map Write.uncolored = (paintedLoop.uncolored.run s none).written := by
  intro s painted
  have hfree : paintedLoop.EscapeFree (Streams.rawLines s.input) := by
    constructor <;> decide +kernel
  obtain ⟨-, -, -, hwritten, -, -⟩ := run_uncolored paintedLoop s none hfree
  exact ⟨hfree, by decide +kernel, hwritten⟩

end Loop

end LineDispatch
