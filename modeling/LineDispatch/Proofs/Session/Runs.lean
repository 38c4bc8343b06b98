import LineDispatch.Proofs.Text.ByteOrder
import LineDispatch.Session

/-!
# Sessions in use

A session goes through calls in any order: registries are made, attached,
detached and attached again, and commands are registered in them whether they are
attached or not.  Two things hold all along.

* Every attached registry exists, and none is attached twice (`Session.Sound`).
  A call that is refused changes nothing (`Session.eq_of_refused`), so that only
  the calls that go through have to be looked at.
* A name of a registry has a command just when some call before has registered
  it there and was not refused (`Session.binding_run_iff`).  Calls that come later
  do not undo this, and so the first such call decides.
-/

namespace LineDispatch.Session

/-- What is asked of a session. -/
inductive Call
  | construct
  | create
  | attach (r : Nat)
  | detach (r : Nat)
  | attachHelp
  | change (settings : Settings)
  | register (r : Nat) (name : Text) (command : Command)

/-- The reply to a call and the session after it.  Only attaching, detaching and registering can be
refused, which is the reply false. -/
def step (s : Session) : Call → Bool × Session
  | .construct => (true, s.construct)
  | .create => (true, s.create)
  | .attach r => s.attach r
  | .detach r => s.detach r
  | .attachHelp => (true, s.attachHelp)
  | .change settings => (true, { s with settings })
  | .register r name command => s.register r name command

/-- The session after calls, one after the other. -/
def run (s : Session) (calls : List Call) : Session :=
  calls.foldl (fun s call => (s.step call).2) s

/-- The command that registry `r` has under a name. -/
def binding (s : Session) (r : Nat) (name : Text) : Option Command :=
  (s.registries[r]?).bind (·.get? name)

/-- The names that are registered in registry `r`. -/
def names (s : Session) (r : Nat) : List Text :=
  (s.registries[r]?).elim [] Registry.commands

variable {s : Session} {r : Nat} {name : Text} {command : Command}

theorem run_cons (s : Session) (call : Call) (calls : List Call) :
    s.run (call :: calls) = (s.step call).2.run calls := rfl

/-! ## What a call does -/

theorem attach_eq_false_iff (hr : r < s.registries.length) :
    (s.attach r).1 = false ↔ r ∈ s.attached := by
  unfold attach
  split
  · rename_i h
    simp [h.2]
  · rename_i h
    simpa [hr] using h

theorem detach_eq_false_iff : (s.detach r).1 = false ↔ r ∉ s.attached := by
  unfold detach
  split <;> simp [*]

/-- A registry that is detached is taken out of its place, and the others stay in theirs. -/
theorem exists_detach_eq (hnodup : s.attached.Nodup) (hr : r ∈ s.attached) :
    ∃ front back, s.attached = front ++ r :: back ∧ r ∉ front ∧ r ∉ back ∧
      (s.detach r).2 = { s with attached := front ++ back } := by
  obtain ⟨front, back, hfront, hattached, herase⟩ := List.exists_erase_eq hr
  have hback : r ∉ back := by
    rw [hattached] at hnodup
    exact (List.nodup_cons.1 (List.nodup_append.1 hnodup).2.1).1
  refine ⟨front, back, hattached, hfront, hback, ?_⟩
  rw [detach, if_pos hr, herase]

/-- A command is registered under a free name of a registry, or the call is refused. -/
theorem register_cases (s : Session) (r : Nat) (name : Text) (command : Command) :
    s.register r name command = (false, s) ∨
      ∃ registry, s.registries[r]? = some registry ∧ registry.get? name = none ∧
        s.register r name command =
          (true, { s with registries := s.registries.set r (registry.insert name command) }) := by
  cases hr : s.registries[r]? with
  | none =>
      left
      rw [register, hr]
  | some registry =>
      cases hname : registry.contains name with
      | true =>
          left
          obtain ⟨hlt, hget⟩ := List.getElem?_eq_some_iff.1 hr
          have hkept : s.registries.set r registry = s.registries := by
            rw [← hget, List.set_getElem_self]
          simp [register, hr, Registry.register, Table.insertNew, hname, hkept]
      | false =>
          right
          refine ⟨registry, rfl, by simpa [Table.contains] using hname, ?_⟩
          simp [register, hr, Registry.register, Table.insertNew, hname]

theorem eq_of_refused {call : Call} (h : (s.step call).1 = false) : (s.step call).2 = s := by
  cases call with
  | construct | create | attachHelp | change settings => cases h
  | attach r =>
      change (s.attach r).1 = false at h
      show (s.attach r).2 = s
      unfold attach at h ⊢
      by_cases hnew : r < s.registries.length ∧ r ∉ s.attached
      · rw [if_pos hnew] at h
        cases h
      · rw [if_neg hnew]
  | detach r =>
      have hr : r ∉ s.attached := detach_eq_false_iff.1 h
      show (s.detach r).2 = s
      rw [detach, if_neg hr]
  | register r name command =>
      rcases register_cases s r name command with hkept | ⟨registry, -, -, hnew⟩
      · exact congrArg Prod.snd hkept
      · have htrue : (s.register r name command).1 = true := by rw [hnew]
        cases htrue.symm.trans h

/-! ## The attached registries -/

/-- The attached registries exist, and each is attached once. -/
structure Sound (s : Session) : Prop where
  exist : ∀ r ∈ s.attached, r < s.registries.length
  nodup : s.attached.Nodup

theorem sound_start (settings : Settings) : Sound { settings } :=
  ⟨fun _ hr => absurd hr List.not_mem_nil, List.nodup_nil⟩

theorem Sound.create (h : s.Sound) : s.create.Sound := by
  refine ⟨?_, h.nodup⟩
  intro r hr
  have hlength : s.create.registries.length = s.registries.length + 1 := List.length_append
  have hlt := h.exist r hr
  omega

theorem Sound.attach (h : s.Sound) (r : Nat) : (s.attach r).2.Sound := by
  unfold Session.attach
  split
  · rename_i hnew
    constructor
    · intro r' hr'
      rcases List.mem_append.1 hr' with hold | hlast
      · exact h.exist r' hold
      · rw [List.mem_singleton.1 hlast]
        exact hnew.1
    · show (s.attached ++ [r]).Nodup
      rw [List.nodup_append]
      refine ⟨h.nodup, by simp, ?_⟩
      intro r' hr' _ hlast heq
      rw [heq, List.mem_singleton.1 hlast] at hr'
      exact hnew.2 hr'
  · exact h

theorem Sound.detach (h : s.Sound) (r : Nat) : (s.detach r).2.Sound := by
  unfold Session.detach
  split
  · exact ⟨fun r' hr' => h.exist r' (List.mem_of_mem_erase hr'), h.nodup.erase r⟩
  · exact h

theorem Sound.register (h : s.Sound) (r : Nat) (name : Text) (command : Command) :
    (s.register r name command).2.Sound := by
  rcases register_cases s r name command with hkept | ⟨registry, -, -, hnew⟩
  · rw [hkept]
    exact h
  · rw [hnew]
    refine ⟨?_, h.nodup⟩
    intro r' hr'
    rw [List.length_set]
    exact h.exist r' hr'

theorem Sound.step (h : s.Sound) (call : Call) : (s.step call).2.Sound := by
  cases call with
  | construct => exact h.create.attach _
  | create => exact h.create
  | attach r => exact h.attach r
  | detach r => exact h.detach r
  | attachHelp | change settings => exact ⟨h.exist, h.nodup⟩
  | register r name command => exact h.register r name command

theorem Sound.run (h : s.Sound) (calls : List Call) : (s.run calls).Sound := by
  induction calls generalizing s with
  | nil => exact h
  | cons call calls ih => exact ih (h.step call)

/-- A registry that is made to be attached is attached behind the others. -/
theorem Sound.construct_eq (h : s.Sound) :
    s.construct =
      { s with
        registries := s.registries ++ [{}]
        attached := s.attached ++ [s.registries.length] } := by
  have hnew : s.registries.length < s.create.registries.length ∧
      s.registries.length ∉ s.create.attached := by
    refine ⟨by simp [Session.create], ?_⟩
    intro hmem
    exact Nat.lt_irrefl _ (h.exist _ hmem)
  rw [Session.construct, Session.attach, if_pos hnew]
  rfl

/-! ## What names are bound to -/

theorem binding_create (s : Session) (r : Nat) (name : Text) :
    s.create.binding r name = s.binding r name := by
  unfold binding create
  rcases Nat.lt_or_ge r s.registries.length with hlt | hge
  · rw [List.getElem?_append_left hlt]
  · rw [List.getElem?_append_right hge, List.getElem?_eq_none hge]
    cases r - s.registries.length <;> rfl

theorem binding_attach (s : Session) (r' r : Nat) (name : Text) :
    (s.attach r').2.binding r name = s.binding r name := by
  unfold attach
  split <;> rfl

theorem binding_detach (s : Session) (r' r : Nat) (name : Text) :
    (s.detach r').2.binding r name = s.binding r name := by
  unfold detach
  split <;> rfl

theorem binding_register_iff {r' : Nat} {name' : Text} {command' : Command} :
    (s.register r' name' command').2.binding r name = some command ↔
      s.binding r name = some command ∨
        Call.register r' name' command' = .register r name command ∧
          (s.register r name command).1 = true := by
  rw [Call.register.injEq]
  rcases register_cases s r' name' command' with hkept | ⟨registry, hr, hfree, hnew⟩
  · rw [hkept, iff_self_or]
    rintro ⟨⟨rfl, rfl, rfl⟩, htrue⟩
    rw [hkept] at htrue
    cases htrue
  · have hlt := (List.getElem?_eq_some_iff.1 hr).1
    rw [hnew]
    by_cases hr' : r' = r
    · subst hr'
      have hbinding : s.binding r' name = registry.get? name := by rw [binding, hr]; rfl
      rw [hbinding, binding, List.getElem?_set_self hlt, Option.bind_some, Table.get?_insert]
      by_cases hname : name = name'
      · subst hname
        rw [if_pos rfl, hfree]
        constructor
        · rintro ⟨⟩
          exact .inr ⟨⟨rfl, rfl, rfl⟩, by rw [hnew]⟩
        · rintro (hnone | ⟨⟨-, -, rfl⟩, -⟩)
          · cases hnone
          · rfl
      · simp [hname, Ne.symm hname]
    · simp [binding, List.getElem?_set_ne hr', hr']

/-- A call leaves every name bound as it is, but for the one that it registers. -/
theorem binding_step_iff {call : Call} :
    (s.step call).2.binding r name = some command ↔
      s.binding r name = some command ∨
        call = .register r name command ∧ (s.register r name command).1 = true := by
  cases call with
  | construct => simp [step, construct, binding_attach, binding_create]
  | create => simp [step, binding_create]
  | attach r' => simp [step, binding_attach]
  | detach r' => simp [step, binding_detach]
  | attachHelp => simp [step, attachHelp, binding]
  | change settings => simp [step, binding]
  | register r' name' command' => exact binding_register_iff

/-- After calls, a name is bound to what it was bound to before or to what a call has registered it
for and was not refused. -/
theorem binding_run_iff {calls : List Call} :
    (s.run calls).binding r name = some command ↔
      s.binding r name = some command ∨
        ∃ front back, calls = front ++ .register r name command :: back ∧
          ((s.run front).register r name command).1 = true := by
  induction calls generalizing s with
  | nil => simp [run]
  | cons call calls ih =>
      rw [run_cons, ih, binding_step_iff, or_assoc]
      refine or_congr Iff.rfl ⟨?_, ?_⟩
      · rintro (⟨rfl, hnew⟩ | ⟨front, back, rfl, hnew⟩)
        · exact ⟨[], calls, rfl, hnew⟩
        · exact ⟨call :: front, back, rfl, hnew⟩
      · rintro ⟨front, back, hcalls, hnew⟩
        cases front with
        | nil => exact .inl ⟨(List.cons.inj hcalls).1, hnew⟩
        | cons first front =>
            obtain ⟨rfl, htail⟩ := List.cons.inj hcalls
            exact .inr ⟨front, back, htail, hnew⟩

/-! ## The names of all commands -/

theorem commands_eq (s : Session) : s.interface.commands = s.attached.flatMap s.names := by
  show (s.attached.filterMap (s.registries[·]?)).flatMap Registry.commands = _
  induction s.attached with
  | nil => rfl
  | cons r rest ih =>
      rw [List.flatMap_cons, ← ih]
      cases hr : s.registries[r]? <;> simp [names, hr]

theorem names_increasing (s : Session) (r : Nat) :
    (s.names r).Pairwise fun a b => Utf8.encode a < Utf8.encode b := by
  unfold names
  cases s.registries[r]? with
  | none => exact List.Pairwise.nil
  | some registry => exact registry.keys_increasing.imp fun h => Utf8.encode_lt_encode h

theorem mem_names_iff : name ∈ s.names r ↔ ∃ command, s.binding r name = some command := by
  rw [← Option.isSome_iff_exists]
  unfold names binding
  cases s.registries[r]? with
  | none => simp
  | some registry => exact Table.mem_keys_iff

/-! ## All that holds after any calls -/

/-- After any calls no registry is attached twice; attaching is refused just for a registry that is
attached, and detaching for one that is not; what is refused changes nothing; attaching puts a
registry behind the others, and detaching takes it out from among them; a name is bound to the
command of the one call that has registered it, for good; and the names of all commands are those of
the attached registries one after the other, each in increasing order. -/
theorem run_invariants (settings : Settings) (calls : List Call) :
    let s := run { settings } calls
    s.attached.Nodup ∧
      (∀ r < s.registries.length,
        ((s.attach r).1 = false ↔ r ∈ s.attached) ∧ ((s.detach r).1 = false ↔ r ∉ s.attached)) ∧
      (∀ call, (s.step call).1 = false → (s.step call).2 = s) ∧
      (∀ r ∈ s.attached, ∃ front back, s.attached = front ++ r :: back ∧ r ∉ front ∧ r ∉ back ∧
        (s.detach r).2 = { s with attached := front ++ back }) ∧
      (∀ r < s.registries.length, r ∉ s.attached →
        (s.attach r).2 = { s with attached := s.attached ++ [r] }) ∧
      s.construct =
        { s with
          registries := s.registries ++ [{}]
          attached := s.attached ++ [s.registries.length] } ∧
      (∀ r name command, s.binding r name = some command ↔
        ∃ front back, calls = front ++ .register r name command :: back ∧
          ((run { settings } front).register r name command).1 = true) ∧
      (∀ r name command more, s.binding r name = some command →
        (s.run more).binding r name = some command) ∧
      s.interface.commands = s.attached.flatMap s.names ∧
      ∀ r, (s.names r).Pairwise (fun a b => Utf8.encode a < Utf8.encode b) ∧
        ∀ name, name ∈ s.names r ↔ ∃ command, s.binding r name = some command := by
  intro s
  have hsound : s.Sound := (sound_start settings).run calls
  refine ⟨hsound.nodup, fun r hr => ⟨attach_eq_false_iff hr, detach_eq_false_iff⟩,
    fun call => eq_of_refused, fun r => exists_detach_eq hsound.nodup, ?_, hsound.construct_eq, ?_,
    ?_, commands_eq s, fun r => ⟨names_increasing s r, fun name => mem_names_iff⟩⟩
  · intro r hr hnew
    rw [attach, if_pos ⟨hr, hnew⟩]
  · intro r name command
    have hstart : ({ settings } : Session).binding r name ≠ some command := nofun
    exact binding_run_iff.trans (or_iff_right hstart)
  · intro r name command more hbinding
    exact binding_run_iff.2 (.inl hbinding)

-- A registry that is attached again goes to the end, and a command that it got in between is there.
example :
    let hello : Command := .simple (fun _ => .ok "hello") []
    let s := run {} [.construct, .construct, .register 1 "b" hello, .detach 0,
      .register 0 "c" hello, .register 0 "a" hello, .attach 1, .attach 0]
    s.attached = [1, 0] ∧ s.interface.commands = (["b", "a", "c"] : List Text) := by
  decide +kernel

end LineDispatch.Session
