import Preflight.Proofs.Check.Account
import Preflight.Proofs.Check.Confinement
import Preflight.Proofs.Report.Colour

/-!
The texts that a run quotes in its report.

A finding quotes paths and names of the layout, import targets, and the message of a reader, which
quotes the path that was opened, with the root in front, and the words of a fault. Faults are worded
by the operating system or count bytes. So a report is plain if the root, the layout, the import
targets and the words of the operating system are.
-/

namespace Preflight

open Terminal (EscapeFree escapeFree_append escapeFree_ofList escapeFree_toString)

/-- Whether there is no escape character in the root of a project, in the strings of its layout that
a run quotes, or in the target of an import in a source that is scanned. -/
structure Project.IsPlain (project : Project) (disk : Disk) : Prop where
  root : EscapeFree project.root
  manifest : EscapeFree project.layout.manifest
  required : ∀ name ∈ project.layout.requiredDependencies, EscapeFree name
  paths : ∀ path ∈ project.layout.paths, EscapeFree path
  targets : ∀ path ∈ project.layout.importSources, ∀ text,
    disk.Holds (project.resolve path) text → ∀ target ∈ Import.targets text, EscapeFree target

/-- Whether there is no escape character in the words for what keeps a disk from reading a file. -/
def Disk.HasPlainFaults (disk : Disk) : Prop :=
  ∀ path fault, disk.read path = .error fault → EscapeFree fault.message

/-! ## Messages -/

theorem AccessFault.IsSystem.escapeFree_message {fault : AccessFault} (system : fault.IsSystem) :
    EscapeFree fault.message := by
  unfold message
  cases fault with
  | other description => exact absurd rfl (system description)
  | _ => exact escapeFree_ofList (by decide)

theorem Text.Utf8.Fault.escapeFree_message (fault : Text.Utf8.Fault) :
    EscapeFree fault.message := by
  unfold message
  cases fault <;> simp only [escapeFree_append]
  case malformed index length =>
    exact ⟨⟨⟨escapeFree_ofList (by decide), escapeFree_toString _⟩, escapeFree_ofList (by decide)⟩,
      escapeFree_toString _⟩
  case truncated index => exact ⟨escapeFree_ofList (by decide), escapeFree_toString _⟩

theorem Path.escapeFree_join {root path : String} (front : EscapeFree root)
    (back : EscapeFree path) : EscapeFree (join root path) := by
  rw [join]
  split_ifs
  · exact back
  · exact escapeFree_append.2 ⟨front, back⟩
  · simp only [escapeFree_append]
    exact ⟨⟨front, escapeFree_ofList (by decide)⟩, back⟩

/-- What a reader says of a file that it cannot read. -/
theorem escapeFree_message_of_readText {disk : Disk} {path : String} {error : ReadError}
    (worded : disk.HasPlainFaults) (free : EscapeFree path)
    (failed : readText disk path = .error error) : EscapeFree error.message := by
  have access {cause : AccessFault} (plain : EscapeFree cause.message) :
      EscapeFree (ReadError.access path cause).message := by
    unfold ReadError.message
    simp only [escapeFree_append]
    exact ⟨⟨⟨escapeFree_ofList (by decide), free⟩, escapeFree_ofList (by decide)⟩, plain⟩
  have decoding (cause : Text.Utf8.Fault) : EscapeFree (ReadError.decoding path cause).message := by
    unfold ReadError.message
    simp only [escapeFree_append]
    exact ⟨⟨free, escapeFree_ofList (by decide)⟩, cause.escapeFree_message⟩
  rw [readText] at failed
  cases read : disk.read path with
  | error fault =>
    rw [read] at failed
    cases failed
    exact access (worded path fault read)
  | ok bytes =>
    simp only [read] at failed
    cases decoded : Text.Utf8.decode bytes with
    | error cause =>
      rw [decoded] at failed
      cases failed
      exact decoding cause
    | ok text =>
      rw [decoded] at failed
      cases failed

/-! ## File systems -/

namespace FileSystem

/-- Whether there is no escape character in the words for what keeps locked files from being
opened. -/
def HasPlainLocks (fs : FileSystem) : Prop :=
  ∀ place fault, fs.node? place = some (.locked fault) → EscapeFree fault.message

theorem hasPlainLocks_empty : empty.HasPlainLocks := nofun

/-- All other faults of a file system are in the words of the operating system. -/
theorem hasPlainFaults_disk {fs : FileSystem} (worded : fs.HasPlainLocks) (here : Place) :
    (fs.disk here).HasPlainFaults := by
  intro path fault failed
  change (fs.look here path).bind Found.read = .error fault at failed
  cases looked : fs.look here path with
  | error reason =>
    rw [looked] at failed
    cases failed
    exact (isSystem_of_look looked).escapeFree_message
  | ok found =>
    rw [looked] at failed
    cases found with
    | file bytes => cases failed
    | directory =>
      cases failed
      exact escapeFree_ofList (by decide)
    | locked reason =>
      cases failed
      obtain ⟨place, stored⟩ := exists_node?_of_look_locked looked
      exact worded place _ stored

end FileSystem

/-! ## Findings -/

theorem Finding.isPlain_of_pair {finding : Finding} {first second : String}
    (made : finding.strings = [first, second]) (begins : EscapeFree first)
    (ends : EscapeFree second) : finding.IsPlain := by
  rw [IsPlain, made]
  exact List.forall_mem_cons.2 ⟨begins, List.forall_mem_singleton.2 ends⟩

namespace Project.IsPlain

variable {project : Project} {disk : Disk}

theorem escapeFree_message {path : String} {error : ReadError}
    (plain : project.IsPlain disk) (worded : disk.HasPlainFaults) (free : EscapeFree path)
    (failed : readText disk (project.resolve path) = .error error) :
    EscapeFree error.message :=
  escapeFree_message_of_readText worded (Path.escapeFree_join plain.root free) failed

/-- What a check says of a source is plain when it is so for what it finds in the text of one: the
note on a source that cannot be read quotes its path and a message. -/
theorem isPlain_of_mem_source {path : String} (plain : project.IsPlain disk)
    (worded : disk.HasPlainFaults)
    (listed : path ∈ project.layout.paths) {part : Source → List Finding}
    (absent : part .absent = [])
    (unreadable : ∀ error, part (.unreadable error) = [.ofSourceError path error])
    (readable : ∀ text, disk.Holds (project.resolve path) text →
      ∀ finding ∈ part (.readable text), finding.IsPlain) :
    ∀ finding ∈ part (project.source disk path), finding.IsPlain := by
  intro finding found
  rcases project.source_cases disk path with
    ⟨source, -⟩ | ⟨error, source, failed, -⟩ | ⟨text, source, held⟩
  · rw [source, absent] at found
    cases found
  · rw [source, unreadable] at found
    rw [List.mem_singleton.1 found]
    have free := plain.paths path listed
    exact Finding.isPlain_of_pair rfl free (plain.escapeFree_message worded free failed)
  · rw [source] at found
    exact readable text held finding found

theorem presence (plain : project.IsPlain disk) :
    ∀ finding ∈ (Check.checkPresence project disk).findings, finding.IsPlain := by
  intro finding found
  obtain ⟨path, missing, rfl⟩ := List.mem_map.1 found
  exact List.forall_mem_singleton.2 (plain.paths path (List.mem_filter.1 missing).1)

theorem imports (plain : project.IsPlain disk) (worded : disk.HasPlainFaults) :
    ∀ finding ∈ (Check.checkImports project disk).findings, finding.IsPlain := by
  intro finding found
  obtain ⟨path, scanned, also⟩ := List.mem_flatMap.1 found
  have listed := Layout.mem_paths_of_mem_importSources scanned
  refine plain.isPlain_of_mem_source worded listed rfl (fun _ => rfl) ?_ finding also
  intro text held finding said
  obtain ⟨target, offending, rfl⟩ := List.mem_map.1 said
  exact Finding.isPlain_of_pair rfl (plain.paths path listed)
    (plain.targets path scanned text held target (List.mem_filter.1 offending).1)

theorem dependencies (plain : project.IsPlain disk) (worded : disk.HasPlainFaults) :
    ∀ finding ∈ (Check.checkDependencies project disk).findings, finding.IsPlain := by
  intro finding found
  rcases project.findings_checkDependencies disk with
    ⟨error, failed, only⟩ | ⟨-, named⟩
  · rw [only] at found
    rw [List.mem_singleton.1 found]
    exact Finding.isPlain_of_pair rfl plain.manifest
      (plain.escapeFree_message worded plain.manifest failed)
  · obtain ⟨name, required, rfl⟩ := named finding found
    exact List.forall_mem_singleton.2 (plain.required name required)

theorem statistics (plain : project.IsPlain disk) (worded : disk.HasPlainFaults) :
    ∀ finding ∈ (Check.checkStatistics project disk).findings, finding.IsPlain := by
  intro finding found
  obtain ⟨path, counted, also⟩ := List.mem_flatMap.1 found
  have listed := Layout.mem_paths_of_mem_countedSources counted
  exact plain.isPlain_of_mem_source worded listed rfl (fun _ => rfl)
    (fun _ _ _ said => absurd said List.not_mem_nil) finding also

/-- The report of a run quotes nothing but the project, its sources and faults. -/
theorem run (plain : project.IsPlain disk) (worded : disk.HasPlainFaults) :
    (project.run disk).IsPlain := by
  intro result listed
  obtain ⟨check, -, rfl⟩ := List.mem_map.1 listed
  cases check with
  | presence => exact ⟨escapeFree_ofList (by decide), plain.presence⟩
  | imports => exact ⟨escapeFree_ofList (by decide), plain.imports worded⟩
  | dependencies => exact ⟨escapeFree_ofList (by decide), plain.dependencies worded⟩
  | statistics => exact ⟨escapeFree_ofList (by decide), plain.statistics worded⟩

end Project.IsPlain

end Preflight
