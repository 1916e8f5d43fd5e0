import DeclarativeHttp.Session

/-!
# Interrupts

Handles by which sleeps are cut short. Copies of a handle share its flag; the flag
stays up until it is taken down.
-/

namespace DeclarativeHttp

/-- Handles, each with the place of its flag, and the flags. -/
structure Interrupts where
  handles : List Nat
  flags : List Bool
  deriving DecidableEq, Repr

namespace Interrupts

def one : Interrupts := ⟨[0], [false]⟩

def isInterrupted (handle : Nat) (s : Interrupts) : Bool :=
  ((s.handles[handle]?).bind fun f => s.flags[f]?).getD false

def setFlag (handle : Nat) (up : Bool) (s : Interrupts) : Interrupts :=
  match s.handles[handle]? with
  | some f => { s with flags := s.flags.set f up }
  | none => s

def interrupt (handle : Nat) (s : Interrupts) : Interrupts := s.setFlag handle true

def reset (handle : Nat) (s : Interrupts) : Interrupts := s.setFlag handle false

def copy (handle : Nat) (s : Interrupts) : Interrupts :=
  match s.handles[handle]? with
  | some f => { s with handles := s.handles ++ [f] }
  | none => s

def add (s : Interrupts) : Interrupts :=
  ⟨s.handles ++ [s.flags.length], s.flags ++ [false]⟩

/-- A sleep comes to its end unless the flag of its handle is up. -/
def sleep (handle : Nat) (s : Interrupts) : Except String Unit :=
  if s.isInterrupted handle then .error "sleep interrupted" else .ok ()

/-- The session in which all sleeps are on a handle. -/
def heed (handle : Nat) (s : Interrupts) (session : Session) : Session :=
  { session with cutShort := fun _ => s.isInterrupted handle }

end Interrupts

end DeclarativeHttp
