import Preflight.Proofs.Text.Utf8
import Preflight.Source

/-!
Files that hold a text. What the readers of files give is said of the bytes on the disk, without the
decoder that stands between.
-/

namespace Preflight

/-- Whether the file at a path holds a text in UTF-8. -/
def Disk.Holds (disk : Disk) (path text : String) : Prop :=
  disk.read path = .ok (Text.Utf8.encode text)

theorem Disk.Holds.has {disk : Disk} {path text : String} (held : disk.Holds path text) :
    disk.has path = true :=
  disk.has_of_read held

/-- A file holds one text at most. -/
theorem Disk.Holds.unique {disk : Disk} {path text other : String} (held : disk.Holds path text)
    (also : disk.Holds path other) : text = other :=
  Text.Utf8.encode_injective (Except.ok.inj (held.symm.trans also))

theorem readText_eq_ok_iff {disk : Disk} {path text : String} :
    readText disk path = .ok text ↔ disk.Holds path text := by
  rw [readText, Disk.Holds]
  cases disk.read path with
  | error fault => simp
  | ok bytes =>
    rw [Except.ok.injEq, ← Text.Utf8.decode_eq_ok_iff]
    dsimp only
    cases Text.Utf8.decode bytes <;> simp

/-- A source that is there can be read when its file holds a text. -/
theorem Project.source_eq_readable_iff {project : Project} {disk : Disk} {path text : String} :
    project.source disk path = .readable text ↔ disk.Holds (project.resolve path) text := by
  rw [source]
  constructor
  · intro readable
    split at readable
    · split at readable
      · cases readable
      · next read =>
        cases readable
        exact readText_eq_ok_iff.1 read
    · cases readable
  · intro held
    rw [if_pos held.has, readText_eq_ok_iff.2 held]

end Preflight
