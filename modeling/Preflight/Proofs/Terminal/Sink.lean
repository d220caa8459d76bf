import Mathlib.Tactic.Common
import Preflight.Proofs.Text.Utf8
import Preflight.Terminal.Sink

/-!
What a sink takes of some output depends on the bytes of the output and the room alone, not on the
pieces in which it is written.
-/

namespace Preflight.Terminal

open Text

/-- What a place with room for so many bytes holds of some output: all of it, or its beginning and a
fault. -/
def Written.upTo (fault : AccessFault) (room : Nat) (output : List UInt8) : Written :=
  ⟨output.take room, if output.length ≤ room then none else some fault⟩

@[simp]
theorem Written.bytes_upTo (fault : AccessFault) (room : Nat) (output : List UInt8) :
    (upTo fault room output).bytes = output.take room := rfl

theorem Written.upTo_of_le {fault : AccessFault} {room : Nat} {output : List UInt8}
    (fits : output.length ≤ room) : upTo fault room output = ⟨output, none⟩ := by
  unfold upTo
  rw [List.take_of_length_le fits, if_pos fits]

theorem Written.upTo_of_lt {fault : AccessFault} {room : Nat} {output : List UInt8}
    (long : room < output.length) : upTo fault room output = ⟨output.take room, some fault⟩ := by
  unfold upTo
  rw [if_neg (Nat.not_le.2 long)]

/-- A part that fits leaves the room that it does not take. -/
theorem Written.upTo_append {fault : AccessFault} {room : Nat} {part : List UInt8}
    (fits : part.length ≤ room) (output : List UInt8) :
    upTo fault room (part ++ output) =
      ⟨part ++ (upTo fault (room - part.length) output).bytes,
        (upTo fault (room - part.length) output).fault⟩ := by
  unfold upTo
  have same : (part ++ output).length ≤ room ↔ output.length ≤ room - part.length := by
    rw [List.length_append]
    omega
  rw [List.take_append, List.take_of_length_le fits]
  simp only [same]

namespace Sink

theorem fill_eq_upTo (fault : AccessFault) (room : Nat) (pieces : List String) :
    fill fault room pieces = .upTo fault room (pieces.flatMap Utf8.encode) := by
  induction pieces generalizing room with
  | nil => exact (Written.upTo_of_le (Nat.zero_le room)).symm
  | cons piece pieces ih =>
    simp only [fill, List.flatMap_cons]
    split
    · next fits => rw [ih, Written.upTo_append fits]
    · next full =>
      have long := Nat.lt_of_not_le full
      rw [Written.upTo_of_lt (by rw [List.length_append]; omega),
        List.take_append_of_le_length (Nat.le_of_lt long)]

/-- A sink with limited room holds what there is room for. -/
theorem write_of_room {sink : Sink} {room : Nat} (limited : sink.room = some room)
    (pieces : List String) :
    sink.write pieces = .upTo sink.fault room (Utf8.encode (String.join pieces)) := by
  unfold write
  rw [limited, Utf8.encode_join]
  exact fill_eq_upTo sink.fault room pieces

/-- Whether a sink has no room for a text. -/
def Rejects (sink : Sink) (text : String) : Prop :=
  ∃ room, sink.room = some room ∧ room < (Utf8.encode text).length

theorem not_rejects_unlimited (text : String) : ¬unlimited.Rejects text :=
  fun ⟨_, limited, _⟩ => by cases limited

theorem not_rejects_of_le {sink : Sink} {room : Nat} {text : String}
    (limited : sink.room = some room) (fits : (Utf8.encode text).length ≤ room) :
    ¬sink.Rejects text := by
  rintro ⟨other, same, full⟩
  obtain rfl := Option.some.inj (limited.symm.trans same)
  exact Nat.not_lt.2 fits full

/-- A sink that has no room fails in its own way, and any other takes the whole text. -/
theorem write_cases (sink : Sink) (pieces : List String) :
    sink.Rejects (String.join pieces) ∧ (sink.write pieces).fault = some sink.fault ∨
      ¬sink.Rejects (String.join pieces) ∧
        sink.write pieces = ⟨Utf8.encode (String.join pieces), none⟩ := by
  cases limited : sink.room with
  | none =>
    refine .inr ⟨fun ⟨_, room, _⟩ => by simp [limited] at room, ?_⟩
    unfold write
    rw [limited, Utf8.encode_join]
  | some room =>
    rw [write_of_room limited]
    rcases Nat.lt_or_ge room (Utf8.encode (String.join pieces)).length with long | fits
    · exact .inl ⟨⟨room, limited, long⟩, by rw [Written.upTo_of_lt long]⟩
    · exact .inr ⟨not_rejects_of_le limited fits, Written.upTo_of_le fits⟩

end Sink

end Preflight.Terminal
