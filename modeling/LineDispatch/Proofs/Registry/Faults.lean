import LineDispatch.Registry
import LineDispatch.Proofs.Controller.Dispatch
import LineDispatch.Proofs.Reader.Errors
import LineDispatch.Proofs.Tokens.Unclosed

/-!
# Where parse errors point

A parse error carries a list of tokens and an index, and the error is *located*
when the token at the index is the one that its fault is about.  The list is not
always that of the line: a quote that is never closed is told against the pieces
of the line, and an error in reading a call against the parameters or the raw
tokens of a context from which the words of the path are gone.  Those words and
the name of the command are put in front again, and as the index moves along it
still points at the same token (`Registry.Leads.getElem?_rebased`).

`Registry.faults_of_invoke` lists all the ways in which a line can lead to a
parse error, with the error of each (`Registry.Faults`).  Every one of these
errors is located (`Registry.Faults.located`), and so is that of a line that
cannot be cut into tokens (`Tokens.located_of_ofLine`), which together is
`Registry.located_of_invoke`.
-/

namespace LineDispatch

/-! ## Located errors -/

namespace ParseError

/-- Whether the error points at the token that its fault is about. -/
def Located (e : ParseError) : Prop :=
  match e.fault with
  | .unclosedGroup d => ∃ token, e.tokens[e.index]? = some token ∧ token.opensWith d = true
  | .missingFlagValue flag => e.tokens[e.index]? = some flag ∧ e.index + 1 = e.tokens.length
  | .invalidNumber token _ => e.tokens[e.index]? = some token
  | .emptyCharacter => e.tokens[e.index]? = some []

theorem Located.exists_token {e : ParseError} (h : e.Located) :
    ∃ token, e.tokens[e.index]? = some token := by
  unfold Located at h
  split at h
  · exact ⟨_, h.choose_spec.1⟩
  · exact ⟨_, h.1⟩
  · exact ⟨_, h⟩
  · exact ⟨_, h⟩

theorem Located.index_lt {e : ParseError} (h : e.Located) : e.index < e.tokens.length := by
  obtain ⟨token, htoken⟩ := h.exists_token
  exact (List.getElem?_eq_some_iff.1 htoken).1

end ParseError

theorem ScalarKind.coerce_eq_error {kind : ScalarKind} {token : Text} {fault : ParseFault}
    (h : kind.coerce token = .error fault) :
    (∃ expected, fault = .invalidNumber token expected) ∨ fault = .emptyCharacter ∧ token = [] := by
  cases kind with
  | bool | string => cases h
  | char =>
      cases token with
      | nil =>
          cases h
          exact .inr ⟨rfl, rfl⟩
      | cons c rest => cases h
  | integer k | float k =>
      simp only [coerce] at h
      split at h
      · cases h
      · cases h
        exact .inl ⟨_, rfl⟩

theorem ParseError.located_of_coerce {kind : ScalarKind} {token : Text} {fault : ParseFault}
    (hfault : kind.coerce token = .error fault) {tokens : List Text} {i : Nat}
    (htoken : tokens[i]? = some token) : (⟨fault, tokens, i⟩ : ParseError).Located := by
  rcases ScalarKind.coerce_eq_error hfault with ⟨expected, rfl⟩ | ⟨rfl, rfl⟩
  · exact htoken
  · exact htoken

theorem Tokens.located_of_ofLine {line : Text} {e : ParseError} (h : ofLine line = .error e) :
    e.Located ∧ ∃ d, e.fault = .unclosedGroup d := by
  rw [ofLine_eq_ofPieces] at h
  obtain ⟨d, front, piece, back, -, rfl, -, hopen, -⟩ := ofPieces_unclosed h
  exact ⟨⟨piece, by simp, (opensGroup_eq_true_iff.1 hopen).1⟩, d, rfl⟩

/-! ## Commands -/

namespace Command

/-- Whether no parser of the command makes up an error. -/
def PassErrors : Command → Prop
  | .simple _ _ => True
  | .controller _ parsers => parsers.PassErrors

theorem raises_of_invoke {command : Command} (hcommand : command.PassErrors) {c : Context}
    (hc : c.Itemized) {e : CommandError} (h : command.invoke c = .error e) :
    (∃ message, e = .failed message) ∨
      ∃ tree parsers res raised, command = .controller tree parsers ∧
        tree.resolve c.parameters = .ok res ∧ (c.skip res.consumed).Raises raised ∧
        e = raised.rebase (c.parameters.take res.consumed) := by
  cases command with
  | simple action usage =>
      left
      obtain ⟨message, -, rfl⟩ := mapError_eq_error_iff.1 h
      exact ⟨message, rfl⟩
  | controller tree parsers =>
      right
      simp only [invoke] at h
      split at h
      · cases h
      · rename_i res hres
        obtain ⟨raised, hrun, rfl⟩ := mapError_eq_error_iff.1 h
        have hparsers : parsers.PassErrors := hcommand
        have hraised : (c.skip res.consumed).Raises raised :=
          Operation.raises_of_invoke (r := ⟨c.skip res.consumed, parsers⟩)
            (hc.skip res.consumed) hparsers hrun
        exact ⟨tree, parsers, res, raised, rfl, hres, hraised, rfl⟩

end Command

/-! ## Lines -/

/-- What in a line a parse error is about. -/
inductive FaultSite
  /-- The flag at the end, which has no value. -/
  | danglingFlag
  /-- The positional argument at an index. -/
  | parameter (index : Nat)
  /-- The value of a flag of an operation that so many positional arguments lead to. -/
  | flagValue (words : Nat) (key : Text)

/-- Whether no flag stands where tokens are taken out of the arguments before the error is told:
only positional ones are left for an error in a parameter, and for one in the value of a flag the
words that lead to the operation are moved to the front. -/
def FaultSite.Kept (arguments : List Text) : FaultSite → Prop
  | .danglingFlag => True
  | .parameter _ => ∀ t ∈ arguments, Item.isFlag t = false
  | .flagValue words _ => ∀ t ∈ arguments.take words, Item.isFlag t = false

namespace Registry

/-- Whether no parser of a command makes up an error. -/
def PassErrors (r : Registry) : Prop :=
  ∀ name command, r.get? name = some command → command.PassErrors

theorem passErrors_empty : PassErrors {} := by
  intro name command h
  rw [Table.get?_empty] at h
  cases h

theorem PassErrors.register {r : Registry} (hr : r.PassErrors) {command : Command}
    (hcommand : command.PassErrors) (name : Text) : (r.register name command).2.PassErrors := by
  intro name' command' h
  rw [Registry.register, Table.get?_insertNew, Option.or_eq_some_iff] at h
  rcases h with hold | ⟨-, hnew⟩
  · exact hr _ _ hold
  · split at hnew
    · cases hnew
      exact hcommand
    · cases hnew

/-- Whether the arguments are read as the context `c`, of which the first `words` parameters lead
to an operation of the command. -/
def Leads (r : Registry) (name : Text) (arguments : List Text) (c : Context) (words : Nat) : Prop :=
  Context.ofTokens arguments = .ok c ∧
    ∃ tree parsers res, r.get? name = some (.controller tree parsers) ∧
      tree.resolve c.parameters = .ok res ∧ res.consumed = words

/-- The parse errors of a command on its arguments, each with what it is about.  A flag without a
value is told against all arguments.  An error in a parameter is told against the parameters alone;
one in the value of a flag against the words that lead to the operation and then the tokens that are
left without them. -/
inductive Faults (r : Registry) (name : Text) (arguments : List Text) :
    FaultSite → ParseError → Prop
  | danglingFlag {flag : Text} {index : Nat}
    (hcontext : Context.ofTokens arguments =
      .error ⟨.missingFlagValue flag, arguments, index⟩)
    (htoken : arguments[index]? = some flag) (hlast : index + 1 = arguments.length) :
    Faults r name arguments .danglingFlag ⟨.missingFlagValue flag, name :: arguments, index + 1⟩
  | parameter {c : Context} {words i : Nat} {token : Text} {kind : ScalarKind} {fault : ParseFault}
    (hleads : r.Leads name arguments c words) (htoken : c.parameters[words + i]? = some token)
    (hfault : kind.coerce token = .error fault) :
    Faults r name arguments (.parameter (words + i))
      ⟨fault, name :: c.parameters, words + i + 1⟩
  | flagValue {c : Context} {words i : Nat} {key token : Text} {kind : ScalarKind}
    {fault : ParseFault} (hleads : r.Leads name arguments c words)
    (hvalue : c.flags.value? key = some token)
    (hindex : (c.skip words).flagValueIndex key = some i)
    (htoken : (c.skip words).tokens[i]? = some token)
    (hfault : kind.coerce token = .error fault) :
    Faults r name arguments (.flagValue words key)
      ⟨fault, name :: (c.parameters.take words ++ (c.skip words).tokens), words + i + 1⟩

variable {r : Registry} {name line : Text} {arguments : List Text} {c : Context} {e : ParseError}

theorem Leads.length_take {words : Nat} (h : r.Leads name arguments c words) :
    (c.parameters.take words).length = words := by
  obtain ⟨-, tree, parsers, res, -, hres, rfl⟩ := h
  exact List.length_take_of_le (Controller.consumed_le hres)

theorem Leads.getElem?_rebased {words : Nat} (h : r.Leads name arguments c words)
    (tokens : List Text) (i : Nat) :
    (name :: (c.parameters.take words ++ tokens))[words + i + 1]? = tokens[i]? := by
  have hlength := h.length_take
  rw [List.getElem?_cons_succ, List.getElem?_append_right (by omega), hlength,
    Nat.add_sub_cancel_left]

/-- Words without a flag among them are the first arguments, and what the context is narrowed to is
read from the others. -/
theorem Leads.skip_eq {words : Nat} (h : r.Leads name arguments c words)
    (hflag : ∀ t ∈ arguments.take words, Item.isFlag t = false) :
    (arguments.take words).length = words ∧ c.parameters.take words = arguments.take words ∧
      c.skip words = Context.ofItems (Item.scan (arguments.drop words)) := by
  have hlength := h.length_take
  obtain ⟨hcomplete, rfl⟩ := Context.ofTokens_eq_ok_iff.1 h.1
  have hscan := Item.scan_of_take hflag
  -- There are as many parameters as words lead to the operation, and so as many arguments.
  have hwords : (arguments.take words).length = words := by
    have hle := (Item.filterMap_positional_scan_sublist arguments).length_le
    simp only [Context.ofItems, List.length_take] at hlength ⊢
    omega
  refine ⟨hwords, ?_, ?_⟩
  · rw [Context.ofItems, hscan, List.filterMap_append, Item.filterMap_positional_map,
      List.take_left' hwords]
  · have hdrop := Item.dropPositional_map_append (arguments.take words)
      (Item.scan (arguments.drop words))
    rw [hwords, ← hscan] at hdrop
    rw [Context.skip_ofItems hcomplete, hdrop]

/-- What is raised in the narrowed context is told against the whole call. -/
theorem faults_of_leads {words : Nat} (hleads : r.Leads name arguments c words)
    (h : (c.skip words).Faults e) :
    ∃ site, r.Faults name arguments site
      ((e.rebase (c.parameters.take words)).rebase [name]) := by
  have hlength := hleads.length_take
  -- As many words are put in front as were skipped, so that the parameters are whole again.
  cases h with
  | @parameter i token kind fault htoken hfault =>
      refine ⟨.parameter (words + i), ?_⟩
      have htoken' : c.parameters[words + i]? = some token := by
        rwa [Context.skip_parameters, List.getElem?_drop] at htoken
      have herror : ParseError.rebase [name] (ParseError.rebase (c.parameters.take words)
          ⟨fault, (c.skip words).parameters, i⟩) =
          ⟨fault, name :: c.parameters, words + i + 1⟩ := by
        simp [ParseError.rebase, hlength, Nat.add_comm 1]
      rw [herror]
      exact .parameter hleads htoken' hfault
  | @flagValue key i token kind fault hvalue hindex htoken hfault =>
      refine ⟨.flagValue words key, ?_⟩
      have herror : ParseError.rebase [name] (ParseError.rebase (c.parameters.take words)
          ⟨fault, (c.skip words).tokens, i⟩) =
          ⟨fault, name :: (c.parameters.take words ++ (c.skip words).tokens), words + i + 1⟩ := by
        simp [ParseError.rebase, hlength, Nat.add_comm 1]
      rw [herror]
      exact .flagValue hleads hvalue hindex htoken hfault

theorem command_eq_ok_iff {command : Command} :
    r.command name = .ok command ↔ r.get? name = some command := by
  unfold Registry.command
  cases r.get? name <;> simp

/-- A line is refused while it is cut into tokens, or for something in the arguments of a command
that is registered. -/
theorem faults_of_invoke (hr : r.PassErrors) (h : r.invoke line = .error (.parse e)) :
    Tokens.ofLine line = .error e ∨
      ∃ name arguments site, Tokens.ofLine line = .ok (name :: arguments) ∧
        r.contains name = true ∧ r.Faults name arguments site e := by
  unfold invoke at h
  split at h
  · rename_i e' htokens
    cases h
    exact .inl htokens
  · cases h
  · rename_i name arguments htokens
    right
    rcases bind_eq_error_iff.1 h with hunknown | ⟨command, hcommand, h⟩
    · unfold Registry.command at hunknown
      split at hunknown <;> cases hunknown
    · replace hcommand := command_eq_ok_iff.1 hcommand
      have hname : r.contains name = true := by
        rw [Table.contains, hcommand]
        rfl
      split at h
      · rename_i e' hcontext
        obtain ⟨flag, index, rfl, htoken, hlast⟩ :=
          Flags.extract_eq_error (map_eq_error_iff.1 hcontext)
        have herror : ParseError.rebase [name] ⟨.missingFlagValue flag, arguments, index⟩ =
            ⟨.missingFlagValue flag, name :: arguments, index + 1⟩ := by
          simp [ParseError.rebase, Nat.add_comm 1]
        rw [herror] at h
        cases h
        exact ⟨name, arguments, .danglingFlag, htokens, hname, .danglingFlag hcontext htoken hlast⟩
      · rename_i c hc
        obtain ⟨raised, hrun, heq⟩ := mapError_eq_error_iff.1 h
        rcases Command.raises_of_invoke (hr _ _ hcommand) (Context.itemized_of_ofTokens hc) hrun
          with ⟨message, rfl⟩ | ⟨tree, parsers, res, raised', rfl, hres, hraises, rfl⟩
        · cases heq
        · cases raised' with
          | parse e' =>
              cases heq
              have hleads : r.Leads name arguments c res.consumed :=
                ⟨hc, tree, parsers, res, hcommand, hres, rfl⟩
              obtain ⟨site, hsite⟩ := faults_of_leads hleads hraises
              exact ⟨name, arguments, site, htokens, hname, hsite⟩
          -- Nothing else becomes a parse error when it is told against more tokens.
          | emptyCommand | unknownCommand | missingArgument | failed => cases heq

theorem Faults.located {site : FaultSite} (h : r.Faults name arguments site e) : e.Located := by
  cases h with
  | danglingFlag _ htoken hlast => exact ⟨htoken, congrArg Nat.succ hlast⟩
  | parameter _ htoken hfault => exact ParseError.located_of_coerce hfault htoken
  | @flagValue c words i key token kind fault hleads hvalue hindex htoken hfault =>
      refine ParseError.located_of_coerce hfault ?_
      rwa [hleads.getElem?_rebased]

/-- The error is told against the line as it was cut if and only if no flag stands where tokens
are taken out: anywhere, for an error in a parameter; among the words that lead to the operation,
for one in the value of a flag. -/
theorem Faults.tokens_eq_iff {site : FaultSite} (h : r.Faults name arguments site e) :
    e.tokens = name :: arguments ↔ site.Kept arguments := by
  cases h with
  | danglingFlag _ _ _ => exact iff_of_true rfl trivial
  | parameter hleads _ _ =>
      obtain ⟨hcomplete, rfl⟩ := Context.ofTokens_eq_ok_iff.1 hleads.1
      rw [List.cons.injEq, and_iff_right rfl, FaultSite.Kept]
      constructor
      · intro harguments t ht
        rw [← harguments] at ht
        exact Item.isFlag_of_mem_positional hcomplete ht
      · intro hflag
        have hscan := Item.scan_flatMap (Item.complete_of_mem_map hflag)
        rw [Item.flatMap_tokens_map] at hscan
        rw [hscan]
        exact Item.filterMap_positional_map arguments
  | @flagValue c words i key token kind fault hleads hvalue hindex htoken hfault =>
      have hlength := hleads.length_take
      obtain ⟨hcomplete, rfl⟩ := Context.ofTokens_eq_ok_iff.1 hleads.1
      rw [List.cons.injEq, and_iff_right rfl, FaultSite.Kept]
      constructor
      · intro harguments t ht
        rw [← harguments, List.take_left' hlength] at ht
        exact Item.isFlag_of_mem_positional hcomplete (List.mem_of_mem_take ht)
      · intro hflag
        obtain ⟨-, hparameters, hskip⟩ := hleads.skip_eq hflag
        rw [hparameters, hskip, Context.ofItems, Item.tokens_scan, List.take_append_drop]

/-- Every parse error points at the token that it is about.  Unless that is a quote that is never
closed, the tokens begin with the name of the command, and they are those of the line if no
argument is a flag. -/
theorem located_of_invoke (hr : r.PassErrors) (h : r.invoke line = .error (.parse e)) :
    e.index < e.tokens.length ∧ e.Located ∧
      ((∀ d, e.fault ≠ .unclosedGroup d) →
        ∃ name arguments, Tokens.ofLine line = .ok (name :: arguments) ∧
          r.contains name = true ∧ e.tokens.head? = some name ∧
          ((∀ t ∈ arguments, Item.isFlag t = false) → e.tokens = name :: arguments)) := by
  rcases faults_of_invoke hr h with hline | ⟨name, arguments, site, hline, hname, hfaults⟩
  · obtain ⟨hlocated, d, hd⟩ := Tokens.located_of_ofLine hline
    exact ⟨hlocated.index_lt, hlocated, fun hother => absurd hd (hother d)⟩
  · have hhead : e.tokens.head? = some name := by cases hfaults <;> rfl
    have hkept : (∀ t ∈ arguments, Item.isFlag t = false) → site.Kept arguments := by
      intro hflag
      cases site with
      | danglingFlag => trivial
      | parameter index => exact hflag
      | flagValue words key => exact fun t ht => hflag t (List.mem_of_mem_take ht)
    refine ⟨hfaults.located.index_lt, hfaults.located, fun _ => ?_⟩
    exact ⟨name, arguments, hline, hname, hhead, fun hflag => hfaults.tokens_eq_iff.2 (hkept hflag)⟩

/-! ## A registry to try -/

/-- A parser that reads a number from the flag `-n`. -/
def countParsers : TypeParsers :=
  Table.insert {} "Count" (ReadStep.parser [.flag (.scalar (.integer .i32)) "-n"])

/-- A scope within a scope, with an operation on two numbers and one on a count and a text. -/
def countTree : Controller :=
  let number : ArgumentType := .scalar (.integer .i32)
  let add : Operation := .declare {} "add" [number, number] fun _ => .ok []
  let echo : Operation := .declare {} "echo" [.custom "Count", .scalar .string] fun _ => .ok []
  ⟨"Test", [], [.declare {} "math" ⟨"Math", [add, echo], []⟩]⟩

/-- The scope under the name `test`. -/
def countRegistry : Registry := (register {} "test" (.controller countTree countParsers)).2

theorem passErrors_countRegistry : countRegistry.PassErrors := by
  refine passErrors_empty.register ?_ "test"
  intro type plan h
  rw [countParsers, Table.get?_insert] at h
  split at h
  · cases h
    exact ReadStep.passesOnly_script _
  · cases h

/-- A repeated flag on both sides of the path, of which the value behind it does not fit. -/
theorem located_of_invoke_countRegistry :
    let e : ParseError := ⟨.invalidNumber "two" "i32",
      ["test", "math", "echo", "-n", "1", "hi", "-n", "two"], 7⟩
    countRegistry.PassErrors ∧
      countRegistry.invoke "test math -n 1 echo hi -n two" = .error (.parse e) ∧
      e.index < e.tokens.length ∧ e.Located := by
  intro e
  have h : countRegistry.invoke "test math -n 1 echo hi -n two" = .error (.parse e) := by
    decide +kernel
  obtain ⟨hindex, hlocated, -⟩ := located_of_invoke passErrors_countRegistry h
  exact ⟨passErrors_countRegistry, h, hindex, hlocated⟩

end Registry

end LineDispatch
