import LineDispatch.Interface

/-!
# Sessions

A session is an interface under construction.  Registries are made one after
the other and known by their number; each can be attached to the interface and
detached from it at any time, and commands can be registered in it either way.
-/

namespace LineDispatch

/-- Registries by their number, those that are attached, and the state of the interface. -/
structure Session where
  registries : List Registry := []
  /-- The numbers of the attached registries, in the order in which lines are routed. -/
  attached : List Nat := []
  settings : Settings := {}
  help : Bool := false

namespace Session

/-- The interface to the attached registries. -/
def interface (s : Session) : Interface :=
  ⟨s.attached.filterMap (s.registries[·]?), s.settings, s.help⟩

/-- The number of attached registries. -/
def handlerCount (s : Session) : Nat := s.attached.length

/-- Makes a registry that is not attached. -/
def create (s : Session) : Session := { s with registries := s.registries ++ [{}] }

/-- Attaches a registry behind the others.  Gives false if it is attached or does not exist. -/
def attach (s : Session) (r : Nat) : Bool × Session :=
  if r < s.registries.length ∧ r ∉ s.attached then
    (true, { s with attached := s.attached ++ [r] })
  else (false, s)

/-- Makes a registry and attaches it. -/
def construct (s : Session) : Session := (s.create.attach s.registries.length).2

/-- Detaches a registry.  Gives false if it was not attached. -/
def detach (s : Session) (r : Nat) : Bool × Session :=
  if r ∈ s.attached then (true, { s with attached := s.attached.erase r }) else (false, s)

/-- Has the word for help answered from now on. -/
def attachHelp (s : Session) : Session := { s with help := true }

/-- Registers a command in a registry.  Gives false if the name is taken there. -/
def register (s : Session) (r : Nat) (name : Text) (command : Command) : Bool × Session :=
  match s.registries[r]? with
  | some registry =>
    let (isNew, registry) := registry.register name command
    (isNew, { s with registries := s.registries.set r registry })
  | none => (false, s)

end Session

end LineDispatch
