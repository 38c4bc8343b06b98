import Mathlib.Data.Nat.Find
import LineDispatch.Proofs.Reader.Typing

/-!
# Calling an operation with built-in types

A call goes over the signature twice.  First the tokens are bound to the
parameters, each parameter that takes a token getting the next one, and the
first token that does not fit ends the call.  Then the arguments are taken out
of what was bound, and the first parameter that is required and got nothing ends
it.  So all tokens are looked at before a parameter is found missing, and the
two errors count differently: a token by the tokens in front of it, a parameter
by the parameters, flags among them.

Where a parameter finds its token is `ArgumentType.tokensBefore`: the cursor of
the reader stands there, or behind the last token if there are fewer
(`Reader.bind_of_fits`).  What one parameter comes to by itself is told by
`ArgumentType.Misfits`, `Lacks` and `Gets`, of which one holds for every built-in
type (`ArgumentType.misfits_or_lacks_or_gets`); the call comes to the first
misfit, else to the first lack, else to all that is got
(`Operation.invoke_outcome`).
-/

namespace LineDispatch

/-! ## One parameter -/

namespace ArgumentType

variable {c c' : Context} {type : ArgumentType} {types : List ArgumentType} {k : Nat}

/-- Whether the type is a scalar or flags, under any number of options. -/
def IsBuiltIn : ArgumentType → Prop
  | .scalar _ | .flags => True
  | .custom _ => False
  | .optional type => type.IsBuiltIn

/-- The number of tokens that an argument of the type takes. -/
def width (type : ArgumentType) : Nat := if type.slot.takesToken then 1 else 0

/-- The number of tokens that the first `j` of these parameters take. -/
def tokensBefore (types : List ArgumentType) (j : Nat) : Nat :=
  (types.take j).countP (·.slot.takesToken)

/-- Whether the token at `k` does not fit the type. -/
def Misfits (c : Context) (type : ArgumentType) (k : Nat) (fault : ParseFault) : Prop :=
  ∃ kind token, type.slot = .scalar kind ∧ c.parameters[k]? = some token ∧
    kind.coerce token = .error fault

/-- Whether the type is required and there is no token at `k`. -/
def Lacks (c : Context) (type : ArgumentType) (k : Nat) (kind : ScalarKind) : Prop :=
  type = .scalar kind ∧ c.parameters.length ≤ k

/-- What a parameter of the type gets with its token at `k`: what the token stands for, nothing if
it is optional and there is no token, the flags of the call if it asks for flags. -/
inductive Gets (c : Context) (type : ArgumentType) (k : Nat) : Argument → Prop
  | token {kind : ScalarKind} {token : Text} {v : Scalar} (hslot : type.slot = .scalar kind)
    (htoken : c.parameters[k]? = some token) (hv : kind.coerce token = .ok v) :
    Gets c type k (type.wrap (.scalar v))
  | absent {inner : ArgumentType} {kind : ScalarKind} (htype : type = .optional inner)
    (hslot : type.slot = .scalar kind) (hnone : c.parameters.length ≤ k) : Gets c type k .absent
  | flags (hslot : type.slot = .flags) : Gets c type k (type.wrap (.flags c.flags))

/-- What is bound to a parameter of the type whose token is at `k`, if it fits. -/
def boundIn (c : Context) (type : ArgumentType) (k : Nat) : Option Bound :=
  match type.slot with
  | .scalar kind => c.parameters[k]?.bind fun token => (kind.coerce token).toOption.map .scalar
  | .flags => some (.flags c.flags)
  | .custom _ => none

/-- Where a parameter finds its token, counted from that of the first one or from that behind. -/
theorem add_tokensBefore_cons_succ (k : Nat) (type : ArgumentType) (types : List ArgumentType)
    (j : Nat) :
    k + tokensBefore (type :: types) (j + 1) = k + type.width + tokensBefore types j := by
  have hcount : tokensBefore (type :: types) (j + 1) = tokensBefore types j + type.width := by
    rw [tokensBefore, List.take_succ_cons, List.countP_cons]
    rfl
  omega

theorem slot_of_isBuiltIn (h : type.IsBuiltIn) :
    type.slot = .flags ∨ ∃ kind, type.slot = .scalar kind := by
  induction type with
  | scalar kind => exact .inr ⟨kind, rfl⟩
  | flags => exact .inl rfl
  | custom name => exact h.elim
  | optional type ih => exact ih h

theorem take_of_gets {a : Argument} (h : type.Gets c k a) (i : Nat) :
    type.take (type.boundIn c k) i = .ok a := by
  cases h with
  | @token kind token v hslot htoken hv =>
      have hbound : type.boundIn c k = some (.scalar v) := by
        simp [boundIn, hslot, htoken, hv, Except.toOption]
      have hkind : (Bound.scalar v).slot = type.slot := by
        rw [hslot, ← ScalarKind.kind_of_coerce hv]
        rfl
      rw [hbound, take_some hkind]
  | @absent inner kind htype hslot hnone =>
      have hbound : type.boundIn c k = none := by
        simp [boundIn, hslot, List.getElem?_eq_none hnone]
      rw [hbound, htype]
      rfl
  | flags hslot =>
      have hbound : type.boundIn c k = some (.flags c.flags) := by
        simp [boundIn, hslot]
      have hflags : (Bound.flags c.flags).slot = type.slot := by
        rw [hslot]
        rfl
      rw [hbound, take_some hflags]

theorem take_of_lacks {kind : ScalarKind} (h : type.Lacks c k kind) (i : Nat) :
    type.take (type.boundIn c k) i = .error (.missingArgument i kind.name) := by
  obtain ⟨rfl, hnone⟩ := h
  have hbound : boundIn c (.scalar kind) k = none := by
    simp [boundIn, slot, List.getElem?_eq_none hnone]
  rw [hbound]
  rfl

theorem misfits_or_lacks_or_gets (h : type.IsBuiltIn) (c : Context) (k : Nat) :
    (∃ fault, type.Misfits c k fault) ∨ (∃ kind, type.Lacks c k kind) ∨ ∃ a, type.Gets c k a := by
  rcases slot_of_isBuiltIn h with hslot | ⟨kind, hslot⟩
  · exact .inr (.inr ⟨_, .flags hslot⟩)
  · cases htoken : c.parameters[k]? with
    | some token =>
        cases hcoerce : kind.coerce token with
        | error fault => exact .inl ⟨fault, kind, token, hslot, htoken, hcoerce⟩
        | ok v => exact .inr (.inr ⟨_, .token hslot htoken hcoerce⟩)
    | none =>
        have hnone : c.parameters.length ≤ k := List.getElem?_eq_none_iff.1 htoken
        -- Without a token it is the option around the type that matters.
        cases type with
        | scalar kind => exact .inr (.inl ⟨kind, rfl, hnone⟩)
        | optional inner => exact .inr (.inr ⟨.absent, .absent rfl hslot hnone⟩)
        | flags | custom name => cases hslot

/-- The parameter and the flags are all that is looked at. -/
theorem boundIn_congr (hflags : c.flags = c'.flags)
    (htoken : type.slot.takesToken = true → c.parameters[k]? = c'.parameters[k]?) :
    type.boundIn c k = type.boundIn c' k := by
  unfold boundIn
  cases hslot : type.slot with
  | scalar kind =>
      rw [hslot] at htoken
      simp only [htoken rfl]
  | flags => simp only [hflags]
  | custom name => rfl

theorem Misfits.congr {fault : ParseFault} (h : type.Misfits c k fault)
    (htoken : type.slot.takesToken = true → c.parameters[k]? = c'.parameters[k]?) :
    type.Misfits c' k fault := by
  obtain ⟨kind, token, hslot, hsome, hcoerce⟩ := h
  rw [htoken (by rw [hslot]; rfl)] at hsome
  exact ⟨kind, token, hslot, hsome, hcoerce⟩

theorem tokensBefore_mono (types : List ArgumentType) {i j : Nat} (h : i ≤ j) :
    tokensBefore types i ≤ tokensBefore types j :=
  (List.take_sublist_take_left h).countP_le

/-- A token that is taken is one of those counted in all. -/
theorem tokensBefore_lt {j : Nat} (h : types[j]? = some type)
    (htakes : type.slot.takesToken = true) :
    tokensBefore types j < tokensBefore types types.length := by
  have hj : j < types.length := (List.getElem?_eq_some_iff.1 h).1
  have hsucc : tokensBefore types (j + 1) = tokensBefore types j + 1 := by
    rw [tokensBefore, List.take_add_one, h, List.countP_append]
    simp [tokensBefore, htakes]
  have hle : tokensBefore types (j + 1) ≤ tokensBefore types types.length :=
    tokensBefore_mono types hj
  omega

end ArgumentType

/-! ## Binding the tokens -/

namespace Reader

open ArgumentType

variable {r : Reader} {c : Context} {type : ArgumentType} {types : List ArgumentType} {k j : Nat}

/-- Where the cursor stands for a parameter whose token is at `k`: there, or behind the last token if
there are fewer. -/
def cursorFor (c : Context) (k : Nat) : Nat :=
  if k < c.parameters.length then k else c.parameters.length

/-- What is bound to the parameters, the token of the first being at `k`. -/
def boundFrom (c : Context) (k : Nat) : List ArgumentType → List (Option Bound)
  | [] => []
  | type :: types => type.boundIn c k :: boundFrom c (k + type.width) types

theorem boundFrom_congr {c' : Context} (hflags : c.flags = c'.flags)
    (h : ∀ (j : Nat) (type : ArgumentType), types[j]? = some type →
      type.slot.takesToken = true →
        c.parameters[k + tokensBefore types j]? = c'.parameters[k + tokensBefore types j]?) :
    boundFrom c k types = boundFrom c' k types := by
  induction types generalizing k with
  | nil => rfl
  | cons first types ih =>
      have hfirst : first.boundIn c k = first.boundIn c' k :=
        boundIn_congr hflags fun htakes => h 0 first rfl htakes
      have hrest : boundFrom c (k + first.width) types = boundFrom c' (k + first.width) types :=
        ih fun j other hj htakes => by
          rw [← add_tokensBefore_cons_succ]
          exact h (j + 1) other hj htakes
      rw [boundFrom, boundFrom, hfirst, hrest]

theorem cursorFor_of_le (h : k ≤ c.parameters.length) : cursorFor c k = k := by
  unfold cursorFor
  split <;> omega

theorem cursorFor_of_ge (h : c.parameters.length ≤ k) : cursorFor c k = c.parameters.length := by
  unfold cursorFor
  split <;> omega

theorem bindSlot_of_fits (h : type.IsBuiltIn)
    (hfits : ∀ fault, ¬ type.Misfits r.context k fault) :
    r.bindSlot type.slot (cursorFor r.context k) =
      (.ok (type.boundIn r.context k), cursorFor r.context (k + type.width)) := by
  rcases slot_of_isBuiltIn h with hslot | ⟨kind, hslot⟩
  · have hbound : type.boundIn r.context k = some (.flags r.context.flags) := by
      simp [boundIn, hslot]
    have hwidth : type.width = 0 := by simp [width, hslot, Slot.takesToken]
    rw [hslot, bindSlot_eq_slot (s := .flags) (by simp), hbound, hwidth]
    rfl
  · have hwidth : type.width = 1 := by simp [width, hslot, Slot.takesToken]
    rw [hslot, bindSlot_eq_slot (s := .scalar kind) (by simp), hwidth]
    rcases Nat.lt_or_ge k r.context.parameters.length with hlt | hge
    · have htoken : r.context.parameters[k]? = some r.context.parameters[k] :=
        List.getElem?_eq_getElem hlt
      obtain ⟨v, hv⟩ : ∃ v, kind.coerce r.context.parameters[k] = .ok v := by
        cases hcoerce : kind.coerce r.context.parameters[k] with
        | ok v => exact ⟨v, rfl⟩
        | error fault => exact absurd ⟨kind, _, hslot, htoken, hcoerce⟩ (hfits fault)
      have hbound : type.boundIn r.context k = some (.scalar v) := by
        simp [boundIn, hslot, htoken, hv, Except.toOption]
      rw [cursorFor_of_le (Nat.le_of_lt hlt), cursorFor_of_le hlt, hbound]
      show r.scalar kind k = _
      simp [scalar, htoken, hv]
    · have hbound : type.boundIn r.context k = none := by
        simp [boundIn, hslot, List.getElem?_eq_none hge]
      rw [cursorFor_of_ge hge, cursorFor_of_ge (Nat.le_succ_of_le hge), hbound]
      exact slot_scalar_of_not_hasNext (by simp [hasNext]) kind

theorem bindSlot_of_misfits {fault : ParseFault} (h : type.Misfits r.context k fault) :
    ∃ q, r.bindSlot type.slot (cursorFor r.context k) =
      (.error (.parse ⟨fault, r.context.parameters, k⟩), q) := by
  obtain ⟨kind, token, hslot, htoken, hcoerce⟩ := h
  have hlt : k < r.context.parameters.length := (List.getElem?_eq_some_iff.1 htoken).1
  refine ⟨k + 1, ?_⟩
  rw [hslot, bindSlot_eq_slot (s := .scalar kind) (by simp), cursorFor_of_le (Nat.le_of_lt hlt)]
  show r.scalar kind k = _
  simp [scalar, htoken, hcoerce]

/-- Where every token fits, each parameter is bound to what its own token stands for. -/
theorem bind_of_fits (h : ∀ type ∈ types, type.IsBuiltIn)
    (hfits : ∀ (j : Nat) (type : ArgumentType) (fault : ParseFault), types[j]? = some type →
      ¬ type.Misfits r.context (k + tokensBefore types j) fault) :
    ∃ q, r.bind (types.map ArgumentType.slot) (cursorFor r.context k) =
      (.ok (boundFrom r.context k types), q) := by
  induction types generalizing k with
  | nil => exact ⟨_, rfl⟩
  | cons first types ih =>
      have hfirst : r.bindSlot first.slot (cursorFor r.context k) =
          (.ok (first.boundIn r.context k), cursorFor r.context (k + first.width)) :=
        bindSlot_of_fits (h first List.mem_cons_self) fun fault => hfits 0 first fault rfl
      obtain ⟨q, hrest⟩ := ih (fun t ht => h t (List.mem_cons_of_mem _ ht))
        fun j other fault hj => by
          rw [← add_tokensBefore_cons_succ]
          exact hfits (j + 1) other fault hj
      exact ⟨q, consWith_of_ok hfirst hrest⟩

/-- The first token that does not fit is the error. -/
theorem bind_of_misfits {fault : ParseFault} (h : ∀ type ∈ types, type.IsBuiltIn)
    (htype : types[j]? = some type)
    (hmisfit : type.Misfits r.context (k + tokensBefore types j) fault)
    (hfits : ∀ (i : Nat) (other : ArgumentType) (fault : ParseFault), i < j →
      types[i]? = some other → ¬ other.Misfits r.context (k + tokensBefore types i) fault) :
    ∃ q, r.bind (types.map ArgumentType.slot) (cursorFor r.context k) =
      (.error (.parse ⟨fault, r.context.parameters, k + tokensBefore types j⟩), q) := by
  induction types generalizing k j with
  | nil => cases htype
  | cons first types ih =>
      cases j with
      | zero =>
          obtain rfl := Option.some.inj htype
          obtain ⟨q, hq⟩ := bindSlot_of_misfits hmisfit
          exact ⟨q, Reading.bind_of_error hq _⟩
      | succ j =>
          have hfirst : r.bindSlot first.slot (cursorFor r.context k) =
              (.ok (first.boundIn r.context k), cursorFor r.context (k + first.width)) :=
            bindSlot_of_fits (h first List.mem_cons_self)
              fun fault => hfits 0 first fault (Nat.succ_pos j) rfl
          rw [add_tokensBefore_cons_succ] at hmisfit ⊢
          obtain ⟨q, hq⟩ := ih (fun t ht => h t (List.mem_cons_of_mem _ ht)) htype hmisfit
            fun i other fault hi hother => by
              rw [← add_tokensBefore_cons_succ]
              exact hfits (i + 1) other fault (Nat.succ_lt_succ hi) hother
          exact ⟨q, (Reading.bind_of_ok hfirst _).trans (Reading.bind_of_error hq _)⟩

end Reader

/-! ## Taking the arguments out -/

namespace Operation

open ArgumentType Reader

variable {c c' : Context} {type : ArgumentType} {types : List ArgumentType} {k i j : Nat}

theorem takeAll_cons (type : ArgumentType) (types : List ArgumentType) (b : Option Bound)
    (bound : List (Option Bound)) :
    takeAll i (type :: types) (b :: bound) =
      (type.take b i >>= fun a => takeAll (i + 1) types bound >>= fun as => .ok (a :: as)) := by
  cases b <;> rfl

/-- Where no parameter lacks its token, each argument is what its parameter gets. -/
theorem takeAll_of_gets
    (h : ∀ (j : Nat) (type : ArgumentType), types[j]? = some type →
      ∃ a, type.Gets c (k + tokensBefore types j) a) :
    ∃ arguments, takeAll i types (boundFrom c k types) = .ok arguments ∧
      arguments.length = types.length ∧
        ∀ (j : Nat) (type : ArgumentType), types[j]? = some type →
          ∃ a, arguments[j]? = some a ∧ type.Gets c (k + tokensBefore types j) a := by
  induction types generalizing k i with
  | nil => exact ⟨[], rfl, rfl, nofun⟩
  | cons first types ih =>
      obtain ⟨a, ha⟩ : ∃ a, first.Gets c k a := h 0 first rfl
      obtain ⟨as, hrest, hlength, hgets⟩ := ih (k := k + first.width) (i := i + 1)
        fun j other hj => by
          rw [← add_tokensBefore_cons_succ]
          exact h (j + 1) other hj
      refine ⟨a :: as, ?_, congrArg (· + 1) hlength, fun j other hj => ?_⟩
      · rw [boundFrom, takeAll_cons, take_of_gets ha, hrest]
        rfl
      · cases j with
        | zero =>
            obtain rfl := Option.some.inj hj
            exact ⟨a, rfl, ha⟩
        | succ j =>
            rw [add_tokensBefore_cons_succ]
            exact hgets j other hj

/-- The first parameter that lacks its token is the error. -/
theorem takeAll_of_lacks {kind : ScalarKind} (htype : types[j]? = some type)
    (hlacks : type.Lacks c (k + tokensBefore types j) kind)
    (h : ∀ (i : Nat) (other : ArgumentType), i < j → types[i]? = some other →
      ∃ a, other.Gets c (k + tokensBefore types i) a) :
    takeAll i types (boundFrom c k types) = .error (.missingArgument (i + j) kind.name) := by
  induction types generalizing k i j with
  | nil => cases htype
  | cons first types ih =>
      cases j with
      | zero =>
          obtain rfl := Option.some.inj htype
          have hfirst : first.Lacks c k kind := hlacks
          rw [boundFrom, takeAll_cons, take_of_lacks hfirst]
          rfl
      | succ j =>
          obtain ⟨a, ha⟩ : ∃ a, first.Gets c k a := h 0 first (Nat.succ_pos j) rfl
          rw [add_tokensBefore_cons_succ] at hlacks
          have hrest := ih (i := i + 1) htype hlacks fun l other hl hother => by
            rw [← add_tokensBefore_cons_succ]
            exact h (l + 1) other (Nat.succ_lt_succ hl) hother
          rw [boundFrom, takeAll_cons, take_of_gets ha, hrest, Nat.add_right_comm]
          rfl

/-! ## The whole call -/

/-- Whether the parameter at `j` is given a token that does not fit it. -/
def Misfit (op : Operation) (c : Context) (j : Nat) (fault : ParseFault) : Prop :=
  ∃ type, op.parameters[j]? = some type ∧ type.Misfits c (tokensBefore op.parameters j) fault

/-- Whether the parameter at `j` is required and there is no token for it. -/
def Lack (op : Operation) (c : Context) (j : Nat) (kind : ScalarKind) : Prop :=
  ∃ type, op.parameters[j]? = some type ∧ type.Lacks c (tokensBefore op.parameters j) kind

theorem arity_eq (op : Operation) :
    op.arity = tokensBefore op.parameters op.parameters.length := by
  rw [arity, tokenSlots, slots, tokensBefore, List.take_length, ← List.countP_eq_length_filter,
    List.countP_map]
  rfl

theorem exists_least {P : Nat → Prop} (h : ∃ n, P n) : ∃ n, P n ∧ ∀ m, m < n → ¬ P m := by
  classical
  exact ⟨Nat.find h, Nat.find_spec h, fun _ => Nat.find_min h⟩

section Calls

variable {op : Operation} {r : Reader}

theorem invoke_of_bind_error {e : CommandError} {q : Nat}
    (h : r.bind op.slots 0 = (.error e, q)) : op.invoke r = .error e := by
  unfold invoke
  rw [h]
  rfl

theorem invoke_of_bind_ok {bound : List (Option Bound)} {q : Nat}
    (h : r.bind op.slots 0 = (.ok bound, q)) :
    op.invoke r =
      (takeAll 0 op.parameters bound >>= fun as => (op.handler as).mapError .failed) := by
  unfold invoke
  rw [h]
  rfl

variable (hop : ∀ type ∈ op.parameters, type.IsBuiltIn)

include hop

/-- A token that does not fit is told before any parameter is found missing. -/
theorem invoke_of_misfit (h : ∃ j fault, op.Misfit r.context j fault) :
    ∃ j fault, op.Misfit r.context j fault ∧
      (∀ i other, op.Misfit r.context i other →
        tokensBefore op.parameters j ≤ tokensBefore op.parameters i) ∧
      op.invoke r =
        .error (.parse ⟨fault, r.context.parameters, tokensBefore op.parameters j⟩) := by
  obtain ⟨j, ⟨fault, type, htype, hmisfit⟩, hleast⟩ := exists_least h
  refine ⟨j, fault, ⟨type, htype, hmisfit⟩, fun i other hi => ?_, ?_⟩
  · apply tokensBefore_mono
    apply Nat.le_of_not_lt
    exact fun hlt => hleast i hlt ⟨other, hi⟩
  · have hbefore : ∀ (i : Nat) (other : ArgumentType) (fault : ParseFault), i < j →
        op.parameters[i]? = some other →
          ¬ other.Misfits r.context (0 + tokensBefore op.parameters i) fault := by
      intro i other fault' hi hother hmis
      rw [Nat.zero_add] at hmis
      exact hleast i hi ⟨fault', other, hother, hmis⟩
    rw [← Nat.zero_add (tokensBefore op.parameters j)] at hmisfit ⊢
    obtain ⟨q, hq⟩ := bind_of_misfits hop htype hmisfit hbefore
    rw [cursorFor_of_le (Nat.zero_le _)] at hq
    exact invoke_of_bind_error hq

/-- Where every token fits, it is the second pass that decides. -/
theorem invoke_of_no_misfit (h : ¬ ∃ j fault, op.Misfit r.context j fault) :
    op.invoke r =
      (takeAll 0 op.parameters (boundFrom r.context 0 op.parameters) >>= fun as =>
        (op.handler as).mapError .failed) := by
  have hfits : ∀ (j : Nat) (type : ArgumentType) (fault : ParseFault),
      op.parameters[j]? = some type →
        ¬ type.Misfits r.context (0 + tokensBefore op.parameters j) fault := by
    intro j type fault htype hmisfit
    rw [Nat.zero_add] at hmisfit
    exact h ⟨j, fault, type, htype, hmisfit⟩
  obtain ⟨q, hq⟩ := bind_of_fits hop hfits
  rw [cursorFor_of_le (Nat.zero_le _)] at hq
  exact invoke_of_bind_ok hq

theorem exists_gets (h : ¬ ∃ j fault, op.Misfit r.context j fault)
    (htype : op.parameters[j]? = some type) (hno : ¬ ∃ kind, op.Lack r.context j kind) :
    ∃ a, type.Gets r.context (0 + tokensBefore op.parameters j) a := by
  rw [Nat.zero_add]
  have hbuiltIn : type.IsBuiltIn := hop type (List.mem_of_getElem? htype)
  rcases misfits_or_lacks_or_gets hbuiltIn r.context (tokensBefore op.parameters j) with
    ⟨fault, hmisfit⟩ | ⟨kind, hlacks⟩ | hgets
  · exact absurd ⟨j, fault, type, htype, hmisfit⟩ h
  · exact absurd ⟨kind, type, htype, hlacks⟩ hno
  · exact hgets

theorem invoke_of_lack (h : ¬ ∃ j fault, op.Misfit r.context j fault)
    (hlack : ∃ j kind, op.Lack r.context j kind) :
    ∃ j kind, op.Lack r.context j kind ∧ (∀ i other, op.Lack r.context i other → j ≤ i) ∧
      op.invoke r = .error (.missingArgument j kind.name) := by
  obtain ⟨j, ⟨kind, type, htype, hlacks⟩, hleast⟩ := exists_least hlack
  refine ⟨j, kind, ⟨type, htype, hlacks⟩, fun i other hi => ?_, ?_⟩
  · exact Nat.le_of_not_lt fun hlt => hleast i hlt ⟨other, hi⟩
  · have hbefore : ∀ (i : Nat) (other : ArgumentType), i < j → op.parameters[i]? = some other →
        ∃ a, other.Gets r.context (0 + tokensBefore op.parameters i) a :=
      fun i other hi hother => exists_gets hop h hother (hleast i hi)
    rw [← Nat.zero_add (tokensBefore op.parameters j)] at hlacks
    rw [invoke_of_no_misfit hop h, takeAll_of_lacks htype hlacks hbefore, Nat.zero_add]
    rfl

/-- The call looks at the tokens up to the arity and at the flags. -/
theorem invoke_of_gets (h : ¬ ∃ j fault, op.Misfit r.context j fault)
    (hno : ¬ ∃ j kind, op.Lack r.context j kind) :
    ∃ arguments : List Argument, arguments.length = op.parameters.length ∧
      (∀ (j : Nat) (type : ArgumentType), op.parameters[j]? = some type →
        ∃ a, arguments[j]? = some a ∧ type.Gets r.context (tokensBefore op.parameters j) a) ∧
      ∀ (r' : Reader) (handler : List Argument → Except Text Text),
        r'.context.flags = r.context.flags →
        r'.context.parameters.take op.arity = r.context.parameters.take op.arity →
          ({ op with handler } : Operation).invoke r' = (handler arguments).mapError .failed := by
  have hall : ∀ (j : Nat) (type : ArgumentType), op.parameters[j]? = some type →
      ∃ a, type.Gets r.context (0 + tokensBefore op.parameters j) a :=
    fun j type htype => exists_gets hop h htype fun ⟨kind, hkind⟩ => hno ⟨j, kind, hkind⟩
  obtain ⟨arguments, htake, hlength, hgets⟩ := takeAll_of_gets (i := 0) hall
  simp only [Nat.zero_add] at hgets
  refine ⟨arguments, hlength, hgets, fun r' handler hflags htokens => ?_⟩
  -- The two calls have the tokens of all parameters in common.
  have hsame : ∀ (j : Nat) (type : ArgumentType), op.parameters[j]? = some type →
      type.slot.takesToken = true →
        r'.context.parameters[tokensBefore op.parameters j]? =
          r.context.parameters[tokensBefore op.parameters j]? := by
    intro j type htype htakes
    have hlt : tokensBefore op.parameters j < op.arity := by
      rw [arity_eq]
      exact tokensBefore_lt htype htakes
    rw [← List.getElem?_take_of_lt hlt, htokens, List.getElem?_take_of_lt hlt]
  have hfits : ¬ ∃ j fault, ({ op with handler } : Operation).Misfit r'.context j fault := by
    rintro ⟨j, fault, type, htype, hmisfit⟩
    exact h ⟨j, fault, type, htype, hmisfit.congr (hsame j type htype)⟩
  have hbound : boundFrom r'.context 0 op.parameters = boundFrom r.context 0 op.parameters :=
    boundFrom_congr hflags fun j type htype htakes => by
      rw [Nat.zero_add]
      exact hsame j type htype htakes
  calc ({ op with handler } : Operation).invoke r'
      = (takeAll 0 op.parameters (boundFrom r'.context 0 op.parameters) >>= fun as =>
          (handler as).mapError .failed) := invoke_of_no_misfit hop hfits
    _ = (handler arguments).mapError .failed := by
        rw [hbound, htake]
        rfl

end Calls

/-- What the call of an operation with built-in types comes to.  The first token that does not fit is
told against all parameters; if all fit, the first required parameter without a token is missing;
and if there is none, the handler gets what each parameter gets.  Tokens behind those that the
signature asks for do not matter then. -/
theorem invoke_outcome (op : Operation) (r : Reader)
    (hop : ∀ type ∈ op.parameters, type.IsBuiltIn) :
    ((∃ j fault, op.Misfit r.context j fault) →
        ∃ j fault, op.Misfit r.context j fault ∧
          (∀ i other, op.Misfit r.context i other →
            tokensBefore op.parameters j ≤ tokensBefore op.parameters i) ∧
          op.invoke r =
            .error (.parse ⟨fault, r.context.parameters, tokensBefore op.parameters j⟩)) ∧
      ((¬ ∃ j fault, op.Misfit r.context j fault) → (∃ j kind, op.Lack r.context j kind) →
        ∃ j kind, op.Lack r.context j kind ∧
          (∀ i other, op.Lack r.context i other → j ≤ i) ∧
          op.invoke r = .error (.missingArgument j kind.name)) ∧
      ((¬ ∃ j fault, op.Misfit r.context j fault) → (¬ ∃ j kind, op.Lack r.context j kind) →
        ∃ arguments : List Argument, arguments.length = op.parameters.length ∧
          (∀ (j : Nat) (type : ArgumentType), op.parameters[j]? = some type →
            ∃ a, arguments[j]? = some a ∧
              type.Gets r.context (tokensBefore op.parameters j) a) ∧
          ∀ (r' : Reader) (handler : List Argument → Except Text Text),
            r'.context.flags = r.context.flags →
            r'.context.parameters.take op.arity = r.context.parameters.take op.arity →
              ({ op with handler } : Operation).invoke r' =
                (handler arguments).mapError .failed) :=
  ⟨invoke_of_misfit hop, invoke_of_lack hop, invoke_of_gets hop⟩

/-- An operation that asks for the flags first, and then for a number and perhaps a name. -/
def greeting : Operation :=
  .declare {} "greet" [.flags, .scalar (.integer .i32), .optional (.scalar .string)]
    fun _ => .ok "hello"

/-- One call with a number that is none, one without a number, and one with a token too many. -/
theorem invoke_outcome_greeting :
    let misfit : Reader := ⟨{ parameters := ["x"] }, {}⟩
    let lack : Reader := ⟨{}, {}⟩
    let full : Reader := ⟨{ parameters := ["7", "Ann", "more"] }, {}⟩
    (∀ type ∈ greeting.parameters, type.IsBuiltIn) ∧
      (∃ j fault, greeting.Misfit misfit.context j fault ∧
        greeting.invoke misfit =
          .error (.parse ⟨fault, ["x"], tokensBefore greeting.parameters j⟩)) ∧
      (∃ j kind, greeting.Lack lack.context j kind ∧
        greeting.invoke lack = .error (.missingArgument j kind.name)) ∧
      ∃ arguments : List Argument, arguments.length = 3 ∧
        greeting.invoke full = (greeting.handler arguments).mapError .failed := by
  intro misfit lack full
  have hop : ∀ type ∈ greeting.parameters, type.IsBuiltIn := by
    simp [greeting, declare, IsBuiltIn]
  have hmisfit : greeting.Misfit misfit.context 1 (.invalidNumber "x" "i32") :=
    ⟨_, rfl, .integer .i32, "x", rfl, rfl, by decide +kernel⟩
  have hlack : greeting.Lack lack.context 1 (.integer .i32) := ⟨_, rfl, rfl, Nat.le_refl 0⟩
  have hnone : ¬ ∃ j fault, greeting.Misfit lack.context j fault := by
    rintro ⟨j, fault, type, -, kind, token, -, htoken, -⟩
    cases htoken
  have hfits : ¬ ∃ j fault, greeting.Misfit full.context j fault := by
    rintro ⟨j, fault, type, htype, kind, token, hslot, htoken, hcoerce⟩
    have hseven : ScalarKind.coerce (.integer .i32) "7" = .ok (.integer .i32 7) := by
      decide +kernel
    rcases j with _ | _ | _ | j
    · cases htype
      cases hslot
    · cases htype
      cases hslot
      cases htoken
      rw [hseven] at hcoerce
      cases hcoerce
    · cases htype
      cases hslot
      cases hcoerce
    · cases htype
  have henough : ¬ ∃ j kind, greeting.Lack full.context j kind := by
    rintro ⟨j, kind, type, htype, rfl, hle⟩
    rcases j with _ | _ | _ | j
    · cases htype
    · exact absurd hle (by decide)
    · cases htype
    · cases htype
  obtain ⟨j, fault, hj, -, hfault⟩ := (invoke_outcome greeting misfit hop).1 ⟨1, _, hmisfit⟩
  obtain ⟨i, kind, hi, -, hmissing⟩ := (invoke_outcome greeting lack hop).2.1 hnone ⟨1, _, hlack⟩
  obtain ⟨arguments, hlength, -, hcall⟩ := (invoke_outcome greeting full hop).2.2 hfits henough
  exact ⟨hop, ⟨j, fault, hj, hfault⟩, ⟨i, kind, hi, hmissing⟩, arguments, hlength,
    hcall full greeting.handler rfl rfl⟩

end Operation

end LineDispatch
