import Preflight.Proofs.Terminal.Sink

/-!
Writers that take what they are offered in portions.

Output comes in chunks. Of a chunk a writer takes as many bytes at a time as it likes, and it is
offered the rest again. Once it has no room left it fails, and is offered nothing more. In the end
it holds what a sink with as much room takes, however the output is cut into chunks and the chunks
into portions.
-/

namespace Preflight.Terminal

open Text

/-- What can become of chunks that are offered one after another to a writer that has room for so
many bytes. -/
inductive Offered (fault : AccessFault) : Nat → List (List UInt8) → Written → Prop
  | done {room : Nat} : Offered fault room [] ⟨[], none⟩
  | next {room : Nat} {chunks : List (List UInt8)} {written : Written} :
    Offered fault room chunks written → Offered fault room ([] :: chunks) written
  | portion {room : Nat} {part rest : List UInt8} {chunks : List (List UInt8)}
    {written : Written} :
    part ≠ [] → part.length ≤ room →
    Offered fault (room - part.length) (rest :: chunks) written →
    Offered fault room ((part ++ rest) :: chunks) ⟨part ++ written.bytes, written.fault⟩
  | full {chunk : List UInt8} {chunks : List (List UInt8)} :
    chunk ≠ [] → Offered fault 0 (chunk :: chunks) ⟨[], some fault⟩

namespace Offered

variable {fault : AccessFault} {room : Nat} {chunks : List (List UInt8)} {written : Written}

/-- Whatever portions a writer takes, it holds what there is room for. -/
theorem eq_upTo (offered : Offered fault room chunks written) :
    written = .upTo fault room chunks.flatten := by
  induction offered with
  | done => exact (Written.upTo_of_le (Nat.zero_le _)).symm
  | next later ih => exact ih
  | portion taken fits later ih =>
    rw [List.flatten_cons] at ih
    rw [List.flatten_cons, List.append_assoc, Written.upTo_append fits, ← ih]
  | full given =>
    have long := List.length_pos_iff.2 given
    rw [Written.upTo_of_lt, List.take_zero]
    rw [List.flatten_cons, List.length_append]
    exact Nat.lt_add_right _ long

/-- A chunk that fits can be taken at once. -/
theorem whole {chunk : List UInt8} (fits : chunk.length ≤ room)
    (later : Offered fault (room - chunk.length) chunks written) :
    Offered fault room (chunk :: chunks) ⟨chunk ++ written.bytes, written.fault⟩ := by
  cases chunk with
  | nil => exact .next later
  | cons b others =>
    have taken := portion (List.cons_ne_nil b others) fits (.next later)
    rwa [List.append_nil] at taken

end Offered

/-- A writer comes to an end with what it is offered. -/
theorem exists_offered (fault : AccessFault) (room : Nat) (chunks : List (List UInt8)) :
    ∃ written, Offered fault room chunks written := by
  induction chunks generalizing room with
  | nil => exact ⟨_, .done⟩
  | cons chunk chunks ih =>
    by_cases fits : chunk.length ≤ room
    · obtain ⟨written, later⟩ := ih (room - chunk.length)
      exact ⟨_, later.whole fits⟩
    · -- The writer takes what there is room for, and fails at the rest of the chunk.
      have left : chunk.drop room ≠ [] := fun none => fits (List.drop_eq_nil_iff.1 none)
      have failed : Offered fault 0 (chunk.drop room :: chunks) ⟨[], some fault⟩ := .full left
      cases room with
      | zero => exact ⟨_, failed⟩
      | succ room =>
        have length : (chunk.take (room + 1)).length = room + 1 :=
          List.length_take_of_le (Nat.le_of_not_le fits)
        have later : Offered fault (room + 1 - (chunk.take (room + 1)).length)
            (chunk.drop (room + 1) :: chunks) ⟨[], some fault⟩ := by
          rw [length, Nat.sub_self]
          exact failed
        have taken :=
          Offered.portion (List.ne_nil_of_length_eq_add_one length) (Nat.le_of_eq length) later
        rw [List.take_append_drop] at taken
        exact ⟨_, taken⟩

/-- The portions make no difference. -/
theorem offered_iff {fault : AccessFault} {room : Nat} {chunks : List (List UInt8)}
    {written : Written} :
    Offered fault room chunks written ↔ written = .upTo fault room chunks.flatten := by
  constructor
  · exact Offered.eq_upTo
  · rintro rfl
    obtain ⟨written, offered⟩ := exists_offered fault room chunks
    rwa [← offered.eq_upTo]

end Preflight.Terminal
