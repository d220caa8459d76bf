import Preflight.Proofs.Check.Entries
import Preflight.Proofs.Text.Fault

/-!
The code statistics told from the bytes of the files.

A file is counted when its bytes are UTF-8. A line break is one byte that is no part of any other
character, so lines are counted in a text as they would be in its bytes. Of a file that is no text
nothing is counted, not even the part of it that is one. Only sums of what each file adds are shown,
and they do not depend on the order of the entries.
-/

namespace Preflight

open Text.Utf8 (WellFormed encode)

instance (bytes : List UInt8) : Decidable (WellFormed bytes) :=
  inferInstanceAs (Decidable bytes.toByteArray.IsValidUTF8)

namespace Project

section Files

variable (project : Project) (disk : Disk)

/-- The bytes of the file at a path of the layout, if the path leads to one and they are UTF-8. -/
def textBytes? (path : String) : Option (List UInt8) :=
  match disk.read (project.resolve path) with
  | .ok bytes => if WellFormed bytes then some bytes else none
  | .error _ => none

/-- The bytes of the files whose lines are counted, in the order of the entries and each as often as
it is listed. -/
def countedFiles : List (List UInt8) :=
  project.layout.countedEntries.filterMap fun entry => project.textBytes? disk entry.path

end Files

variable {project : Project} {disk : Disk} {path : String}

theorem textBytes?_eq_some_iff {bytes : List UInt8} :
    project.textBytes? disk path = some bytes ↔
      disk.read (project.resolve path) = .ok bytes ∧ WellFormed bytes := by
  rw [textBytes?]
  cases disk.read (project.resolve path) with
  | error fault => exact iff_of_false nofun fun found => nomatch found.1
  | ok held =>
    rw [Option.ite_none_right_eq_some, Option.some.injEq, Except.ok.injEq]
    constructor
    · rintro ⟨sound, rfl⟩
      exact ⟨rfl, sound⟩
    · rintro ⟨rfl, sound⟩
      exact ⟨sound, rfl⟩

/-- A file holds a text when its bytes are UTF-8. -/
theorem holds_iff {text : String} :
    disk.Holds (project.resolve path) text ↔ project.textBytes? disk path = some (encode text) := by
  have sound : WellFormed (encode text) := Text.Utf8.wellFormed_iff.2 ⟨text.toList, rfl⟩
  rw [textBytes?_eq_some_iff, and_iff_left sound, Disk.Holds]

theorem textBytes?_eq_none (unread : ¬project.CanRead disk path) :
    project.textBytes? disk path = none := by
  rw [Option.eq_none_iff_forall_ne_some]
  intro bytes found
  obtain ⟨chars, rfl⟩ := Text.Utf8.wellFormed_iff.1 (textBytes?_eq_some_iff.1 found).2
  refine unread ⟨String.ofList chars, holds_iff.2 ?_⟩
  rw [found, encode, String.toList_ofList]

/-- The lines of a source are one more than the line breaks among the bytes of its file. -/
theorem lineCount?_source (project : Project) (disk : Disk) (path : String) :
    Check.lineCount? (project.source disk path) =
      (project.textBytes? disk path).map fun bytes => bytes.count 0x0A + 1 := by
  rcases project.source_cases disk path with
    ⟨absent, missing⟩ | ⟨error, unread, -, unreadable⟩ | ⟨text, readable, held⟩
  · have unread : ¬project.CanRead disk path := fun readable => readable.not_misses missing
    rw [absent, textBytes?_eq_none unread]
    rfl
  · rw [unread, textBytes?_eq_none unreadable.not_canRead]
    rfl
  · rw [readable, holds_iff.1 held]
    have breaks : (encode text).count 0x0A = text.toList.count '\n' :=
      Text.Utf8.count_encode (c := '\n') (by decide) text
    rw [Option.map_some, breaks]
    rfl

/-- The order of the entries has no part in which files are counted. -/
theorem countedFiles_perm (disk : Disk) {entries : List Entry}
    (same : entries.Perm project.layout.entries) :
    ((project.withEntries entries).countedFiles disk).Perm (project.countedFiles disk) :=
  (same.filter _).filterMap _

end Project

namespace Check

/-! ## What the statistics sum up -/

theorem summarize_perm {counts others : List Nat} (same : counts.Perm others) :
    summarize counts = summarize others := by
  have lines : counts.foldl (· + ·) 0 = others.foldl (· + ·) 0 :=
    same.foldl_eq' (fun count _ other _ total => Nat.add_right_comm total count other) 0
  rw [summarize, summarize, lines, same.length_eq]

/-- The lines of some files are as many as the files and the line breaks among their bytes. -/
theorem totalLines_summarize (files : List (List UInt8)) :
    (summarize (files.map fun bytes => bytes.count 0x0A + 1)).totalLines =
      files.length + files.flatten.count 0x0A := by
  induction files with
  | nil => rfl
  | cons bytes files ih =>
    have parts := totalLines_summarize_append [bytes.count 0x0A + 1]
      (files.map fun bytes => bytes.count 0x0A + 1)
    rw [ih] at parts
    rw [List.map_cons, List.flatten_cons, List.count_append, List.length_cons]
    refine parts.trans ?_
    simp only [summarize, List.foldl_cons, List.foldl_nil]
    omega

/-- Where every file has a line, the average is at least one, and the greatest number of lines that
all files could have had. -/
theorem averageLines_summarize {counts : List Nat} (given : 1 ≤ (summarize counts).totalFiles)
    (enough : (summarize counts).totalFiles ≤ (summarize counts).totalLines) :
    1 ≤ (summarize counts).averageLines ∧
      (summarize counts).totalFiles * (summarize counts).averageLines ≤
        (summarize counts).totalLines ∧
      (summarize counts).totalLines <
        (summarize counts).totalFiles * ((summarize counts).averageLines + 1) :=
  ⟨Nat.div_pos enough given, Nat.mul_div_le _ _, Nat.lt_mul_div_succ _ given⟩

theorem metrics_eq_summarize_countedFiles (project : Project) (disk : Disk) :
    (checkStatistics project disk).metrics =
      some (summarize ((project.countedFiles disk).map fun bytes => bytes.count 0x0A + 1)) := by
  rw [checkStatistics, Layout.countedSources, List.filterMap_map, Project.countedFiles,
    List.map_filterMap]
  refine congrArg (fun counts => some (summarize counts)) ?_
  exact List.filterMap_congr fun entry _ => project.lineCount?_source disk entry.path

/-- The statistics pass. They count the files of counted entries whose bytes are UTF-8, and a line
for each of these files and each line break among their bytes. The average is the whole number of
lines for each file, at least one, and all three numbers are zero where no file is counted. Entries
in another order give the same numbers. -/
theorem checkStatistics_counts_bytes (project : Project) (disk : Disk) :
    (checkStatistics project disk).passed = true ∧
    ∃ metrics, (checkStatistics project disk).metrics = some metrics ∧
      metrics.totalFiles = (project.countedFiles disk).length ∧
      metrics.totalLines = metrics.totalFiles + (project.countedFiles disk).flatten.count 0x0A ∧
      (metrics = ⟨0, 0, 0⟩ ∨
        1 ≤ metrics.totalFiles ∧ 1 ≤ metrics.averageLines ∧
          metrics.totalFiles * metrics.averageLines ≤ metrics.totalLines ∧
          metrics.totalLines < metrics.totalFiles * (metrics.averageLines + 1)) ∧
      ∀ entries : List Entry, entries.Perm project.layout.entries →
        (checkStatistics (project.withEntries entries) disk).metrics = some metrics := by
  have lines := totalLines_summarize (project.countedFiles disk)
  have files : (summarize ((project.countedFiles disk).map fun bytes =>
      bytes.count 0x0A + 1)).totalFiles = (project.countedFiles disk).length := List.length_map _
  refine ⟨rfl, _, metrics_eq_summarize_countedFiles project disk, files, ?_, ?_, ?_⟩
  · rw [lines, files]
  · rcases Nat.eq_zero_or_pos (project.countedFiles disk).length with none | given
    · rw [List.length_eq_zero_iff.1 none]
      exact .inl rfl
    · rw [← files] at given
      have enough := Nat.le_add_right (project.countedFiles disk).length
        ((project.countedFiles disk).flatten.count 0x0A)
      rw [← lines, ← files] at enough
      exact .inr ⟨given, averageLines_summarize given enough⟩
  · intro entries same
    rw [metrics_eq_summarize_countedFiles]
    have counts := (Project.countedFiles_perm disk same).map fun bytes => bytes.count 0x0A + 1
    rw [summarize_perm counts]

/-- A file listed twice, with a character of two bytes and an empty last line, one that breaks off
behind a line break, an empty one, one that is missing, and the same entries in another order. -/
theorem checkStatistics_counts_bytes_reordered :
    let listed : List Entry :=
      [⟨"a", false, true⟩, ⟨"b", true, true⟩, ⟨"e", true, true⟩, ⟨"x", false, true⟩,
        ⟨"a", true, true⟩, ⟨"a", true, false⟩]
    let project : Project := ⟨"p", ⟨"m", [], [], listed⟩⟩
    let disk : Disk := .ofLook fun path =>
      if path = "p/a" then .ok (.file [0xC3, 0x8A, 0x0A, 0x0A])
      else if path = "p/b" then .ok (.file [0x61, 0x0A, 0xC3])
      else if path = "p/e" then .ok (.file [])
      else .error .notFound
    listed.reverse.Perm listed ∧
      (checkStatistics project disk).metrics = some ⟨3, 7, 2⟩ ∧
      (checkStatistics (project.withEntries listed.reverse) disk).metrics = some ⟨3, 7, 2⟩ ∧
      (project.countedFiles disk).length = 3 ∧
      (project.countedFiles disk).flatten.count 0x0A = 4 := by
  intro listed project disk
  have same : listed.reverse.Perm listed := List.reverse_perm listed
  have shown : (checkStatistics project disk).metrics = some ⟨3, 7, 2⟩ := by decide
  obtain ⟨-, metrics, found, files, lines, -, others⟩ := checkStatistics_counts_bytes project disk
  obtain rfl := Option.some.inj (shown.symm.trans found)
  exact ⟨same, shown, others _ same, files.symm, (Nat.add_left_cancel lines).symm⟩

end Check

end Preflight
