import Preflight.Layout.Document
import Preflight.Proofs.Source
import Preflight.Proofs.Text.Fault

/-!
Files as texts.

A file is read as the text that its bytes encode, or the refusal tells where they stop to encode
one. The file of a layout is read in the same way: what cannot be read as a text is no layout file,
and any other file is parsed as the text it holds.
-/

namespace Preflight

open Text.Utf8 (WellFormed BeginsCharacter IsLongestPrefix)

/-- All that can come of reading a file as a text. -/
theorem readText_cases (disk : Disk) (path : String) :
    (∃ cause, disk.read path = .error cause ∧
      readText disk path = .error (.access path cause)) ∨
    (∃ bytes fault, disk.read path = .ok bytes ∧ Text.Utf8.decode bytes = .error fault ∧
      readText disk path = .error (.decoding path fault)) ∨
    ∃ bytes text, disk.read path = .ok bytes ∧ Text.Utf8.decode bytes = .ok text ∧
      readText disk path = .ok text := by
  unfold readText
  cases disk.read path with
  | error cause => exact .inl ⟨cause, rfl, rfl⟩
  | ok bytes =>
    right
    cases decoded : Text.Utf8.decode bytes with
    | error fault => exact .inl ⟨bytes, fault, rfl, decoded, by simp only [decoded]⟩
    | ok text => exact .inr ⟨bytes, text, rfl, decoded, by simp only [decoded]⟩

namespace Layout

/-- A file that is read as a text is parsed as that text. -/
theorem load_of_readText {disk : Disk} {path text : String} (read : readText disk path = .ok text) :
    load disk path = do
      let layout ← (ofDocument text).mapError (.malformed path)
      layout.validate.mapError .invalid
      return layout := by
  have held : disk.read path = .ok (Text.Utf8.encode text) := readText_eq_ok_iff.1 read
  have decoded : Text.Utf8.decode (Text.Utf8.encode text) = .ok text :=
    Text.Utf8.decode_eq_ok_iff.2 rfl
  unfold load
  simp only [held, decoded]
  cases ofDocument text with
  | error cause => rfl
  | ok layout =>
    simp only [Except.mapError, bind, Except.bind, pure, Except.pure]
    cases layout.validate <;> rfl

/-- A layout file fails to be read where no text can be read from it. -/
theorem load_unread_iff {disk : Disk} {path : String} :
    (∃ cause, load disk path = .error (.unreadable path cause)) ∨
        load disk path = .error (.undecodable path) ↔
      ∃ error, readText disk path = .error error := by
  rcases readText_cases disk path with ⟨cause, read, refused⟩ |
    ⟨bytes, fault, read, decoded, refused⟩ | ⟨bytes, text, -, -, taken⟩
  · have loaded : load disk path = .error (.unreadable path cause) := by
      unfold load
      rw [read]
    exact iff_of_true (.inl ⟨cause, loaded⟩) ⟨_, refused⟩
  · have loaded : load disk path = .error (.undecodable path) := by
      unfold load
      simp only [read, decoded]
    exact iff_of_true (.inr loaded) ⟨_, refused⟩
  · rw [load_of_readText taken, taken]
    refine iff_of_false ?_ nofun
    cases ofDocument text with
    | error cause => simp [Except.mapError, bind, Except.bind]
    | ok layout =>
      simp only [Except.mapError, bind, Except.bind, pure, Except.pure]
      cases layout.validate <;> simp

end Layout

/-- A file is read as the text that its bytes encode. If they encode none, the refusal tells the
length of the longest beginning that is well-formed, and says that the file is incomplete if more
bytes would make a text of it; if none would, it tells how many bytes behind that beginning are
those of a character, and never less than one. What cannot be accessed is refused for that, and the
file of a layout is read in the same way. -/
theorem readText_classifies (disk : Disk) (path : String) :
    (∀ cause, disk.read path = .error cause →
      readText disk path = .error (.access path cause)) ∧
    (∀ bytes, disk.read path = .ok bytes →
      (∀ text : String, readText disk path = .ok text ↔ bytes.toByteArray = text.toUTF8) ∧
      ((¬∃ text : String, bytes.toByteArray = text.toUTF8) →
        ∃ sound begun fault, IsLongestPrefix WellFormed bytes sound ∧
          IsLongestPrefix BeginsCharacter (bytes.drop sound.length) begun ∧
          readText disk path = .error (.decoding path fault) ∧
          ("incomplete".toList <+: fault.message.toList ↔ ∃ more, WellFormed (bytes ++ more)) ∧
          ((∃ more, WellFormed (bytes ++ more)) ∧ fault = .truncated sound.length ∨
            (¬∃ more, WellFormed (bytes ++ more)) ∧ max 1 begun.length ∈ [1, 2, 3] ∧
              fault = .malformed sound.length (max 1 begun.length)))) ∧
    ((∃ cause, Layout.load disk path = .error (.unreadable path cause)) ∨
        Layout.load disk path = .error (.undecodable path) ↔
      ∃ error, readText disk path = .error error) ∧
    ∀ text, readText disk path = .ok text →
      Layout.load disk path = do
        let layout ← (Layout.ofDocument text).mapError (.malformed path)
        layout.validate.mapError .invalid
        return layout := by
  refine ⟨fun cause denied => ?_, fun bytes read => ⟨fun text => ?_, fun none => ?_⟩,
    Layout.load_unread_iff, fun text => Layout.load_of_readText⟩
  · unfold readText
    rw [denied]
  · rw [← Text.Utf8.eq_encode_iff, readText_eq_ok_iff, Disk.Holds, read, Except.ok.injEq]
  · rcases readText_cases disk path with ⟨cause, denied, -⟩ |
      ⟨others, fault, again, decoded, refused⟩ | ⟨others, text, again, decoded, -⟩
    · rw [read] at denied
      cases denied
    · obtain rfl := Except.ok.inj (read.symm.trans again)
      obtain ⟨sound, begun, longest, character, told⟩ :=
        Text.Utf8.exists_of_decode_eq_error decoded
      refine ⟨sound, begun, fault, longest, character, refused, ?_⟩
      rw [Text.Utf8.Fault.incomplete_iff]
      rcases told with ⟨more, rfl⟩ | ⟨noMore, rfl⟩
      · exact ⟨iff_of_true rfl more, .inl ⟨more, rfl⟩⟩
      · have small := character.holds.length_le
        refine ⟨iff_of_false (fun same => by cases same) noMore, .inr ⟨noMore, ?_, rfl⟩⟩
        simp only [List.mem_cons, List.not_mem_nil, or_false]
        omega
    · obtain rfl := Except.ok.inj (read.symm.trans again)
      exact absurd ⟨text, Text.Utf8.eq_encode_iff.1 (Text.Utf8.decode_eq_ok_iff.1 decoded)⟩ none

/-- A disk with a text, a file that ends inside a character, a surrogate behind a whole character,
and nothing else. -/
theorem readText_classifies_files :
    let disk : Disk := .ofLook fun path =>
      if path = "text" then .ok (.file [0xC3, 0xA9])
      else if path = "cut" then .ok (.file [0x61, 0xE2, 0x82])
      else if path = "surrogate" then .ok (.file [0xC3, 0xA9, 0xED, 0xA0, 0x80])
      else .error .notFound
    (∃ text, readText disk "text" = .ok text) ∧
    (∃ cause, Layout.load disk "text" = .error (.malformed "text" cause)) ∧
    readText disk "none" = .error (.access "none" .notFound) ∧
    (∃ sound, IsLongestPrefix WellFormed [0x61, 0xE2, 0x82] sound ∧
      readText disk "cut" = .error (.decoding "cut" (.truncated sound.length))) ∧
    ∃ sound begun, IsLongestPrefix WellFormed [0xC3, 0xA9, 0xED, 0xA0, 0x80] sound ∧
      IsLongestPrefix BeginsCharacter ([0xC3, 0xA9, 0xED, 0xA0, 0x80].drop sound.length) begun ∧
      readText disk "surrogate" =
        .error (.decoding "surrogate" (.malformed sound.length (max 1 begun.length))) := by
  intro disk
  have noText {bytes : List UInt8} {fault : Text.Utf8.Fault}
      (refused : Text.Utf8.decode bytes = .error fault) :
      ¬∃ text : String, bytes.toByteArray = text.toUTF8 := by
    rintro ⟨text, same⟩
    rw [Text.Utf8.decode_eq_ok_iff.2 (Text.Utf8.eq_encode_iff.2 same)] at refused
    cases refused
  have taken : readText disk "text" = .ok "é" :=
    (((readText_classifies disk "text").2.1 _ rfl).1 "é").2 (by decide)
  refine ⟨⟨_, taken⟩, ?_, (readText_classifies disk "none").1 _ rfl, ?_, ?_⟩
  · have loaded := (readText_classifies disk "text").2.2.2 _ taken
    exact ⟨_, loaded.trans rfl⟩
  · obtain ⟨sound, begun, fault, longest, -, refused, -, told⟩ :=
      ((readText_classifies disk "cut").2.1 _ rfl).2 (noText rfl)
    rcases told with ⟨-, rfl⟩ | ⟨-, -, rfl⟩
    · exact ⟨sound, longest, refused⟩
    · cases refused
  · obtain ⟨sound, begun, fault, longest, character, refused, -, told⟩ :=
      ((readText_classifies disk "surrogate").2.1 _ rfl).2 (noText rfl)
    rcases told with ⟨-, rfl⟩ | ⟨-, -, rfl⟩
    · cases refused
    · exact ⟨sound, begun, longest, character, refused⟩

end Preflight
