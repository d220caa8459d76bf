import Mathlib.Data.List.Basic
import Preflight.Check.Dependencies
import Preflight.Proofs.Source
import Preflight.Proofs.Text.Occurrence

/-!
Which names are missing from a manifest.

A name is there when the text of the manifest is a front, the name and a back. Whether the search
goes by characters or by the bytes of the file makes no difference, a manifest with more in it lacks
no more names, and one list of names has no part in what is missing of another.
-/

namespace Preflight.Check

open Text (Occurs)
open Text.Utf8 (encode StandsAt)

theorem missingDependencies_eq_filter (text : String) (required : List String) :
    missingDependencies text required = required.filter fun name => ¬Occurs name text := by
  refine List.filter_congr fun name _ => ?_
  rw [Bool.eq_iff_iff, Bool.not_eq_true', ← Bool.not_eq_true, Text.contains_iff_occurs,
    decide_eq_true_eq]

/-- A name that a larger text lacks is missing from each of its parts. -/
theorem missingDependencies_sublist {part text : String} (within : Occurs part text)
    (required : List String) :
    (missingDependencies text required).Sublist (missingDependencies part required) := by
  rw [missingDependencies_eq_filter, missingDependencies_eq_filter]
  refine List.monotone_filter_right required fun name lacking => ?_
  simp only [decide_eq_true_eq] at lacking ⊢
  exact fun inner => lacking (inner.trans within)

theorem findings_checkDependencies_of_holds {project : Project} {disk : Disk} {text : String}
    (held : disk.Holds (project.resolve project.layout.manifest) text) :
    (checkDependencies project disk).findings =
      (missingDependencies text project.layout.requiredDependencies).map .missingDependency := by
  rw [checkDependencies, CheckResult.ofFindings, readText_eq_ok_iff.2 held]
  rfl

/-- The names missing from a text are the required ones that do not occur in it, in order and each
as often as it is required, and the check of dependencies reports just these. A name occurs in a
text when its bytes stand anywhere among those of the text, and they stand nowhere but where the
name does, between whole characters. Names missing from a text are missing from its parts, and of
two lists of names together those are missing that are missing of the one, and then of the other. -/
theorem missingDependencies_do_not_occur :
    (∀ (text : String) (required : List String),
      missingDependencies text required = required.filter fun name => ¬Occurs name text) ∧
    (∀ (project : Project) (disk : Disk) (text : String),
      disk.Holds (project.resolve project.layout.manifest) text →
      (checkDependencies project disk).findings =
        (missingDependencies text project.layout.requiredDependencies).map .missingDependency) ∧
    (∀ name text : String, Occurs name text ↔
      ∃ place, StandsAt (encode text) (encode name) place) ∧
    (∀ name text : String, name ≠ "" → ∀ place,
      (StandsAt (encode text) (encode name) place ↔
        ∃ front back : String, text = front ++ name ++ back ∧ (encode front).length = place)) ∧
    (∀ (part text : String) (required : List String), Occurs part text →
      (missingDependencies text required).Sublist (missingDependencies part required)) ∧
    ∀ (text : String) (required others : List String),
      missingDependencies text (required ++ others) =
        missingDependencies text required ++ missingDependencies text others := by
  refine ⟨missingDependencies_eq_filter, fun _ _ _ => findings_checkDependencies_of_holds,
    fun _ _ => Text.Utf8.occurs_iff_exists_standsAt, ?_, ?_, ?_⟩
  · intro name text given place
    exact Text.Utf8.standsAt_encode_iff given
  · intro part text required within
    exact missingDependencies_sublist within required
  · intro text required others
    exact List.filter_append required others

/-- A name that overlaps itself, one beyond ASCII, the empty one and repeated ones, in a manifest
and in a part of it. -/
theorem missingDependencies_do_not_occur_overlaps :
    let required := ["aab", "é", "dartz", "", "aab\n", "é", "dartz"]
    let project : Project := ⟨"p", ⟨"m", required, [], []⟩⟩
    let disk : Disk := .ofLook fun _ => .ok (.file [0x23, 0xC3, 0xA9, 0x61, 0x61, 0x61, 0x62])
    disk.Holds (project.resolve "m") "#éaaab" ∧ Occurs "aaab" "#éaaab" ∧
      missingDependencies "aaab" required = ["é", "dartz", "aab\n", "é", "dartz"] ∧
      (missingDependencies "#éaaab" required).Sublist (missingDependencies "aaab" required) ∧
      (checkDependencies project disk).findings =
        [.missingDependency "dartz", .missingDependency "aab\n", .missingDependency "dartz"] ∧
      ∃ front back : String, "#éaaab" = front ++ "aab" ++ back ∧ (encode front).length = 4 := by
  intro required project disk
  have held : disk.Holds (project.resolve "m") "#éaaab" := congrArg Except.ok (by decide)
  have within : Occurs "aaab" "#éaaab" := ⟨"#é", "", by decide⟩
  refine ⟨held, within, by decide, ?_, ?_, ?_⟩
  · exact missingDependencies_do_not_occur.2.2.2.2.1 "aaab" "#éaaab" required within
  · rw [missingDependencies_do_not_occur.2.1 project disk "#éaaab" held]
    decide
  · have found : StandsAt (encode "#éaaab") (encode "aab") 4 :=
      ⟨[0x23, 0xC3, 0xA9, 0x61], [], by decide, by decide⟩
    exact (missingDependencies_do_not_occur.2.2.2.1 "aab" "#éaaab" (by decide) 4).1 found

end Preflight.Check
