import LineDispatch.Loop
import LineDispatch.Proofs.Interface.Precedence
import LineDispatch.Proofs.Interface.Suggestions

/-!
# The colour of a message

A loop paints a message for an unknown command in one colour and any other
message in another, and it tells the two apart by how the message begins.  Of
all the sentences for failures none begins like the one for an unknown command:
not even the first character is the same, and the detail behind a sentence does
not change how it begins (`Interface.unknownCommand_prefix_describe_iff`).  What
remains are the texts that commands themselves fail with, which are anything at
all.  So the colour tells the cause but for the commands that fail with a text
that begins in the same way (`Loop.paintsByCause_iff`).
-/

namespace LineDispatch

variable {i : Interface} {l : Loop} {line m : Text} {e : CommandError}

/-! ## How messages begin -/

/-- Whether a command has failed with a text that begins like the message for an unknown command. -/
def CommandError.Misleading (e : CommandError) : Prop :=
  ∃ text, e = .failed text ∧ Interface.unknownCommand <+: text

theorem head?_of_unknownCommand_prefix {t : Text} (h : Interface.unknownCommand <+: t) :
    t.head? = some 'U' := by
  obtain ⟨rest, rfl⟩ := h
  rfl

theorem ParseError.not_unknownCommand_prefix (e : ParseError) :
    ¬ Interface.unknownCommand <+: e.display := by
  intro h
  have hhead := head?_of_unknownCommand_prefix h
  unfold display message at hhead
  cases hfault : e.fault <;> simp [hfault] at hhead

/-- Of all messages for failures, only the text that a command fails with can begin like the message
for an unknown command. -/
theorem CommandError.unknownCommand_prefix_message_iff :
    Interface.unknownCommand <+: e.message ↔ e.Misleading := by
  constructor
  · intro h
    cases e with
    | failed text => exact ⟨text, rfl, h⟩
    | parse e => exact absurd h e.not_unknownCommand_prefix
    | emptyCommand =>
        have hhead : some 'C' = some 'U' := head?_of_unknownCommand_prefix h
        exact absurd hhead (by decide)
    | unknownCommand name suggestion =>
        have hhead : some 'N' = some 'U' := head?_of_unknownCommand_prefix h
        exact absurd hhead (by decide)
    | missingArgument index expected =>
        have hhead : some 'M' = some 'U' := head?_of_unknownCommand_prefix h
        exact absurd hhead (by decide)
  · rintro ⟨text, rfl, h⟩
    exact h

/-- What stands in lines of its own behind a message does not change how the message begins. -/
theorem unknownCommand_prefix_append_newline {t rest : Text} :
    Interface.unknownCommand <+: t ++ '\n' :: rest ↔ Interface.unknownCommand <+: t := by
  refine ⟨fun h => ?_, fun h => h.trans (List.prefix_append _ _)⟩
  rcases List.prefix_or_prefix_of_prefix h (List.prefix_append t _) with hshort | ⟨back, hback⟩
  · exact hshort
  -- Otherwise the sentence goes on behind the text, where there is a newline and it has none.
  · rw [← hback, List.prefix_append_right_inj] at h
    cases back with
    | nil => exact ⟨[], by rw [← hback, List.append_nil, List.append_nil]⟩
    | cons c back =>
        obtain rfl : c = '\n' := (List.cons_prefix_cons.1 h).1
        have hmem : '\n' ∈ Interface.unknownCommand := by
          rw [← hback]
          exact List.mem_append_right _ List.mem_cons_self
        exact absurd hmem (by decide)

theorem Interface.unknownCommand_prefix_describe_iff :
    Interface.unknownCommand <+: i.describe e ↔ e.Misleading := by
  rw [← CommandError.unknownCommand_prefix_message_iff, describe]
  split
  · exact unknownCommand_prefix_append_newline
  · exact Iff.rfl

/-- The message for a line that no registry accepts tells that its command is unknown, or else where
it cannot be cut into tokens. -/
theorem Interface.unknownCommand_prefix_unhandled_iff (hline : line.isBlank = false) :
    Interface.unknownCommand <+: i.unhandled line ↔ ∃ ts, Tokens.ofLine line = .ok ts := by
  cases htokens : Tokens.ofLine line with
  | error e =>
      rw [unhandled, htokens]
      refine iff_of_false e.not_unknownCommand_prefix ?_
      rintro ⟨ts, hts⟩
      cases hts
  | ok ts =>
      cases ts with
      | nil =>
          rw [Tokens.ofLine_eq_ok_nil_iff.1 htokens] at hline
          cases hline
      | cons name arguments =>
          rw [unhandled, htokens]
          exact iff_of_true (List.prefix_append _ _) ⟨_, rfl⟩

/-! ## The messages for a line -/

namespace Interface

theorem messages_of_accepts (haccepts : i.accepts line = true) :
    m ∈ (i.handle line).messages ↔
      ∃ r ∈ i.chosen line, ∃ e, r.invoke line = .error e ∧ i.describe e = m := by
  have hcapable : i.capable line ≠ [] := by
    rw [Ne, ← accepts_eq_false_iff, haccepts]
    exact Bool.noConfusion
  rw [handle_of_capable hcapable]
  simp only [answerOf, List.mem_filterMap, Option.map_eq_some_iff]
  refine exists_congr fun r => and_congr_right fun _ => exists_congr fun e => and_congr_left' ?_
  rw [Registry.failure?]
  cases r.invoke line <;> simp

theorem messages_of_not_accepts (haccepts : i.accepts line = false) :
    (i.handle line).messages = if i.isHelp line then [] else [i.unhandled line] := by
  have hcan : i.canHandle line = i.isHelp line := by rw [canHandle, haccepts, Bool.or_false]
  rw [handle_of_not_capable (accepts_eq_false_iff.1 haccepts), hcan]
  cases i.isHelp line <;> rfl

/-- A registry that runs a line accepts it. -/
theorem accepts_of_mem_chosen {r : Registry} (hr : r ∈ i.chosen line) : i.accepts line = true := by
  have hcapable : r ∈ i.handlers.filter (·.canHandle line) := by
    rw [chosen] at hr
    split at hr
    · exact hr
    · exact List.mem_of_mem_take hr
  obtain ⟨hmem, hcan⟩ := List.mem_filter.1 hcapable
  exact List.any_eq_true.2 ⟨r, hmem, hcan⟩

end Interface

/-! ## Messages in colour -/

theorem Painter.warn_ne_error {p : Painter} (hp : p.enabled = true) (m m' : Text) :
    p.warn m ≠ p.error m' := by
  simp [warn, error, wrap, hp, ColorCode.yellow, ColorCode.red, ColorCode.rendition]

namespace Loop

theorem paint_eq_warn (h : Interface.unknownCommand <+: m) : l.paint m = l.painter.warn m :=
  if_pos (List.isPrefixOf_iff_prefix.2 h)

theorem paint_eq_error (h : ¬ Interface.unknownCommand <+: m) :
    l.paint m = l.painter.error m :=
  if_neg fun hbegins => h (List.isPrefixOf_iff_prefix.1 hbegins)

theorem paint_eq_warn_iff (hp : l.painter.enabled = true) :
    l.paint m = l.painter.warn m ↔ Interface.unknownCommand <+: m := by
  refine ⟨fun h => ?_, paint_eq_warn⟩
  by_contra hbegins
  rw [paint_eq_error hbegins] at h
  exact Painter.warn_ne_error hp m m h.symm

theorem paint_eq_error_iff (hp : l.painter.enabled = true) :
    l.paint m = l.painter.error m ↔ ¬ Interface.unknownCommand <+: m := by
  refine ⟨fun h hbegins => ?_, paint_eq_error⟩
  rw [paint_eq_warn hbegins] at h
  exact Painter.warn_ne_error hp m m h

/-- The message for a failure of a command is painted by how it begins. -/
theorem paint_describe (l : Loop) (e : CommandError) :
    (e.Misleading → l.paint (l.interface.describe e) = l.painter.warn (l.interface.describe e)) ∧
      (¬ e.Misleading →
        l.paint (l.interface.describe e) = l.painter.error (l.interface.describe e)) := by
  rw [← Interface.unknownCommand_prefix_describe_iff (i := l.interface)]
  exact ⟨paint_eq_warn, paint_eq_error⟩

/-- The messages for a line are what it is answered with on the channel for messages. -/
theorem filter_respond (l : Loop) (line : Text) :
    (l.respond line).filter (·.channel = .err) =
      (l.interface.handle line).messages.map fun m => ⟨.err, l.paint m ++ ['\n']⟩ := by
  cases hhelp : l.interface.isHelp line with
  | true => simp [respond, Interface.handle, hhelp]
  | false => simp [respond, hhelp, List.filter_map, Function.comp_def]

/-- Whether each message for a line is painted by what it tells: that no registry accepts the line,
which can be cut into tokens, or what else is wrong. -/
def PaintsByCause (l : Loop) (line : Text) : Prop :=
  let unknown := (∃ ts, Tokens.ofLine line = .ok ts) ∧ ∀ r ∈ l.interface.handlers,
    r.canHandle line = false
  ∀ m ∈ (l.interface.handle line).messages,
    (l.paint m = l.painter.warn m ↔ unknown) ∧ (l.paint m = l.painter.error m ↔ ¬ unknown)

/-- Messages are painted by cause unless a command that runs has failed with a misleading text. -/
theorem paintsByCause_iff_not_misleading (hp : l.painter.enabled = true)
    (hline : line.isBlank = false) :
    l.PaintsByCause line ↔
      ∀ r ∈ l.interface.chosen line, ∀ e, r.invoke line = .error e → ¬ e.Misleading := by
  have hrefused : (∀ r ∈ l.interface.handlers, r.canHandle line = false) ↔
      l.interface.accepts line = false := by simp [Interface.accepts]
  simp only [PaintsByCause, paint_eq_warn_iff hp, paint_eq_error_iff hp, not_iff_not, and_self,
    hrefused]
  cases haccepts : l.interface.accepts line with
  | true =>
      simp only [Interface.messages_of_accepts haccepts, Bool.true_eq_false, and_false, iff_false]
      constructor
      · intro h r hr e he
        rw [← Interface.unknownCommand_prefix_describe_iff (i := l.interface)]
        exact h _ ⟨r, hr, e, he, rfl⟩
      · rintro h m ⟨r, hr, e, he, rfl⟩
        rw [Interface.unknownCommand_prefix_describe_iff]
        exact h r hr e he
  | false =>
      refine iff_of_true (fun m hm => ?_) ?_
      · rw [Interface.messages_of_not_accepts haccepts] at hm
        cases hhelp : l.interface.isHelp line with
        | true => simp [hhelp] at hm
        | false =>
            obtain rfl : m = l.interface.unhandled line := by simpa [hhelp] using hm
            rw [Interface.unknownCommand_prefix_unhandled_iff hline, and_iff_left rfl]
      · intro r hr
        rw [Interface.accepts_of_mem_chosen hr] at haccepts
        cases haccepts

/-- The messages for a line go to one channel, painted each in one of two colours.  Unless a command
that runs fails with a text that begins like the message for an unknown command, the colour tells
whether the line's command is unknown.  Such a text is painted as if it were, and every other
failure, of a command or of the cutting into tokens, as a failure. -/
theorem paintsByCause_iff (hp : l.painter.enabled = true) (hline : line.isBlank = false) :
    (∀ m m', l.painter.warn m ≠ l.painter.error m') ∧
      (l.respond line).filter (·.channel = .err) =
        (l.interface.handle line).messages.map (fun m => ⟨.err, l.paint m ++ ['\n']⟩) ∧
      (l.PaintsByCause line ↔
        ∀ r ∈ l.interface.chosen line, ∀ text, r.invoke line = .error (.failed text) →
          ¬ Interface.unknownCommand <+: text) ∧
      (∀ r ∈ l.interface.chosen line, ∀ e, r.invoke line = .error e →
        let message := l.interface.describe e
        message ∈ (l.interface.handle line).messages ∧
          (e.Misleading → l.paint message = l.painter.warn message) ∧
          (¬ e.Misleading → l.paint message = l.painter.error message)) ∧
      (l.interface.accepts line = false → l.interface.isHelp line = false →
        let message := l.interface.unhandled line
        (l.interface.handle line).messages = [message] ∧
          ((∃ ts, Tokens.ofLine line = .ok ts) → l.paint message = l.painter.warn message) ∧
          ∀ e, Tokens.ofLine line = .error e →
            message = e.display ∧ l.paint message = l.painter.error message) := by
  refine ⟨Painter.warn_ne_error hp, filter_respond l line, ?_, ?_, ?_⟩
  · rw [paintsByCause_iff_not_misleading hp hline]
    refine forall₂_congr fun r hr => ⟨fun h text he htext => h _ he ⟨text, rfl, htext⟩, ?_⟩
    rintro h _ he ⟨text, rfl, htext⟩
    exact h text he htext
  · intro r hr e he message
    have haccepts := Interface.accepts_of_mem_chosen hr
    exact ⟨(Interface.messages_of_accepts haccepts).2 ⟨r, hr, e, he, rfl⟩, paint_describe l e⟩
  · intro haccepts hhelp message
    refine ⟨?_, fun h => ?_, fun e he => ?_⟩
    · rw [Interface.messages_of_not_accepts haccepts, hhelp]
      rfl
    · exact paint_eq_warn ((Interface.unknownCommand_prefix_unhandled_iff hline).2 h)
    · have hmessage : message = e.display := by simp only [message, Interface.unhandled, he]
      rw [hmessage]
      exact ⟨rfl, paint_eq_error e.not_unknownCommand_prefix⟩

/-- A line that fails in one registry and succeeds in another, an unknown line, and one with a quote
that is never closed: each is painted by its cause. -/
theorem paintsByCause_iff_goInterface :
    let l : Loop := { interface := Interface.goInterface, painter := ⟨true⟩ }
    l.painter.enabled = true ∧ Text.isBlank "go" = false ∧ Text.isBlank "no" = false ∧
      Text.isBlank "no 'x" = false ∧
      l.PaintsByCause "go" ∧ l.PaintsByCause "no" ∧ l.PaintsByCause "no 'x" ∧
      l.respond "go" = [⟨.out, "fine\n"⟩, ⟨.err, "\x1b[31mbroken\x1b[0m\n"⟩] := by
  intro l
  have hgo : Text.isBlank "go" = false := by decide +kernel
  have hno : Text.isBlank "no" = false := by decide +kernel
  have hquote : Text.isBlank "no 'x" = false := by decide +kernel
  have hrefused : ∀ line, l.interface.accepts line = false → ∀ r ∈ l.interface.chosen line,
      ∀ text, r.invoke line = .error (.failed text) → ¬ Interface.unknownCommand <+: text := by
    intro line haccepts r hr
    rw [Interface.accepts_of_mem_chosen hr] at haccepts
    cases haccepts
  refine ⟨rfl, hgo, hno, hquote, (paintsByCause_iff rfl hgo).2.2.1.2 ?_,
    (paintsByCause_iff rfl hno).2.2.1.2 (hrefused _ (by decide +kernel)),
    (paintsByCause_iff rfl hquote).2.2.1.2 (hrefused _ (by decide +kernel)), by decide +kernel⟩
  have hchosen : l.interface.chosen "go" =
      [Interface.oneCommand "go" (.error "broken"), Interface.oneCommand "go" (.ok "fine")] := rfl
  have hbroken : (Interface.oneCommand "go" (.error "broken")).invoke "go" =
      .error (.failed "broken") := by decide +kernel
  have hfine : (Interface.oneCommand "go" (.ok "fine")).invoke "go" = .ok "fine" := by
    decide +kernel
  intro r hr text hfailed
  rw [hchosen, List.mem_pair] at hr
  rcases hr with rfl | rfl
  · rw [hbroken] at hfailed
    cases hfailed
    decide
  · rw [hfine] at hfailed
    cases hfailed

/-- A command that fails with the text of an unknown command: the line is accepted, and its failure
painted as if it were not. -/
theorem not_paintsByCause_misleading :
    let failing := Interface.oneCommand "go" (.error "Unknown command. No route.")
    let l : Loop := { interface := { handlers := [failing] }, painter := ⟨true⟩ }
    l.painter.enabled = true ∧ Text.isBlank "go" = false ∧ l.interface.accepts "go" = true ∧
      l.respond "go" = [⟨.err, "\x1b[33mUnknown command. No route.\x1b[0m\n"⟩] ∧
      ¬ l.PaintsByCause "go" := by
  intro failing l
  have haccepts : l.interface.accepts "go" = true := by decide +kernel
  refine ⟨rfl, by decide +kernel, haccepts, by decide +kernel, fun h => ?_⟩
  obtain ⟨hwarn, -⟩ := h "Unknown command. No route." (by decide +kernel)
  obtain ⟨-, hrefused⟩ := hwarn.1 (by decide +kernel)
  have hcan : failing.canHandle "go" = true := by decide +kernel
  rw [hrefused failing List.mem_cons_self] at hcan
  cases hcan

end Loop

end LineDispatch
