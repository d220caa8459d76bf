import Preflight.FileSystem.Fault
import Preflight.Text.Utf8

/-!
Sinks: where output goes. A sink may have room for only so many bytes. It takes the part of a piece
that still fits, fails, and is offered nothing more.
-/

namespace Preflight.Terminal

/-- Where output goes: the room it has, if that is limited, and the fault once it is full. -/
structure Sink where
  room : Option Nat
  fault : AccessFault
  deriving DecidableEq, Repr

def Sink.unlimited : Sink := ⟨none, .noSpace⟩

/-- What has become of some output: the bytes the sink took, and the fault that ended it, if one
did. -/
structure Written where
  bytes : List UInt8
  fault : Option AccessFault
  deriving DecidableEq, Repr

namespace Sink

/-- Write pieces one after another into room for so many bytes. -/
def fill (fault : AccessFault) : Nat → List String → Written
  | _, [] => ⟨[], none⟩
  | room, piece :: rest =>
      let bytes := Text.Utf8.encode piece
      if bytes.length ≤ room then
        let written := fill fault (room - bytes.length) rest
        ⟨bytes ++ written.bytes, written.fault⟩
      else ⟨bytes.take room, some fault⟩

def write (sink : Sink) (pieces : List String) : Written :=
  match sink.room with
  | none => ⟨pieces.flatMap Text.Utf8.encode, none⟩
  | some room => fill sink.fault room pieces

end Sink

end Preflight.Terminal
