import Mathlib.Data.List.Basic
import Preflight.Check.Run
import Preflight.Proofs.FileSystem.Edit
import Preflight.Proofs.Layout.Validation

/-!
A project with a sound layout sees nothing but the tree below its root.

The checks ask for the paths of the layout and for nothing else, and each of those paths stays below
the root. So what a run reports is settled by that tree and the spelling of the paths, wherever the
tree stands and whatever stands around it.
-/

namespace Preflight

/-! ## What the checks ask for -/

section Congruence

variable {project : Project} {disk other : Disk}

/-- Whether two disks look alike at a path: something is there on both or on neither, and it is read
alike. -/
structure Disk.AlikeAt (disk other : Disk) (path : String) : Prop where
  has : disk.has path = other.has path
  read : disk.read path = other.read path

theorem Disk.AlikeAt.readText_eq {path : String} (alike : disk.AlikeAt other path) :
    readText disk path = readText other path := by
  rw [readText, readText, alike.read]

theorem Disk.AlikeAt.source_eq {path : String}
    (alike : disk.AlikeAt other (project.resolve path)) :
    project.source disk path = project.source other path := by
  rw [Project.source, Project.source, alike.has, alike.readText_eq]

theorem Layout.mem_paths_of_mem_importSources {layout : Layout} {path : String}
    (source : path ∈ layout.importSources) : path ∈ layout.paths := by
  obtain ⟨entry, marked, rfl⟩ := List.mem_map.1 source
  exact List.mem_map_of_mem (List.mem_filter.1 marked).1

theorem Layout.mem_paths_of_mem_countedSources {layout : Layout} {path : String}
    (source : path ∈ layout.countedSources) : path ∈ layout.paths := by
  obtain ⟨entry, marked, rfl⟩ := List.mem_map.1 source
  exact List.mem_map_of_mem (List.mem_filter.1 marked).1

/-- A run depends on what is at the paths of the layout, and on no other path. -/
theorem Project.run_congr
    (alike : ∀ path ∈ project.layout.manifest :: project.layout.paths,
      disk.AlikeAt other (project.resolve path)) :
    project.run disk = project.run other := by
  obtain ⟨manifest, paths⟩ := List.forall_mem_cons.1 alike
  have presence : Check.checkPresence project disk = Check.checkPresence project other := by
    have missing : Check.missingPaths project disk = Check.missingPaths project other :=
      List.filter_congr fun path listed => by rw [(paths path listed).has]
    rw [Check.checkPresence, Check.checkPresence, missing]
  have imports : Check.checkImports project disk = Check.checkImports project other := by
    rw [Check.checkImports, Check.checkImports]
    congr 1
    exact List.flatMap_congr fun path source => by
      rw [(paths path (Layout.mem_paths_of_mem_importSources source)).source_eq]
  have dependencies :
      Check.checkDependencies project disk = Check.checkDependencies project other := by
    rw [Check.checkDependencies, Check.checkDependencies, manifest.readText_eq]
  have statistics : Check.checkStatistics project disk = Check.checkStatistics project other := by
    have found (path : String) (source : path ∈ project.layout.countedSources) :
        project.source disk path = project.source other path :=
      (paths path (Layout.mem_paths_of_mem_countedSources source)).source_eq
    have notes : project.layout.countedSources.flatMap
          (fun path => Check.statisticsFindings path (project.source disk path)) =
        project.layout.countedSources.flatMap
          (fun path => Check.statisticsFindings path (project.source other path)) :=
      List.flatMap_congr fun path source => by rw [found path source]
    have counts : project.layout.countedSources.filterMap
          (fun path => Check.lineCount? (project.source disk path)) =
        project.layout.countedSources.filterMap
          (fun path => Check.lineCount? (project.source other path)) :=
      List.filterMap_congr fun path source => by rw [found path source]
    rw [Check.checkStatistics, Check.checkStatistics, notes, counts]
  simp only [run, Check.all, List.map_cons, List.map_nil, Check.result, presence, imports,
    dependencies, statistics]

end Congruence

/-! ## Confinement -/

theorem Layout.validate_flutter : Layout.flutter.validate = .ok () := by decide +kernel

/-- Every path of a project that has been built stays below its root. -/
theorem Project.staysBelow {project : Project} {root : String} {layout : Layout}
    (built : project = .ofRoot root ∨ withLayout root layout = .ok project) :
    project.root = root ∧
      ∀ path ∈ project.layout.manifest :: project.layout.paths, Path.StaysBelow path := by
  rcases built with rfl | built
  · exact ⟨rfl, fun path listed => Layout.staysBelow_of_validate Layout.validate_flutter listed⟩
  · rw [withLayout] at built
    split at built
    · cases built
    · next sound =>
      cases built
      exact ⟨rfl, fun path listed => Layout.staysBelow_of_validate sound listed⟩

/-- Where two looks find the same, the disks that they make are alike. -/
theorem Disk.AlikeAt.of_look {look lookOther : String → Except AccessFault Found} {path : String}
    (same : look path = lookOther path) : (ofLook look).AlikeAt (ofLook lookOther) path :=
  ⟨congrArg Except.isOk same, congrArg (Except.bind · Found.read) same⟩

namespace FileSystem

theorem look_of_locate {fs : FileSystem} {here place : Place} {path : String}
    (led : fs.locate here path = .ok place) : fs.look here path = .ok (fs.found place) := by
  rw [look, led]
  rfl

theorem below_congr {fs other : FileSystem} {place placeOther : Place}
    (same : ∀ names, names ≠ [] → fs.node? (place ++ names) = other.node? (placeOther ++ names)) :
    fs.below place = other.below placeOther := by
  rw [below, below]
  congr
  funext names
  split
  · rfl
  · next inner => exact same names inner

theorem linkless_below {fs : FileSystem} {place : Place}
    (linkless : ∀ names target, names ≠ [] → fs.node? (place ++ names) ≠ some (.link target)) :
    (fs.below place).Linkless := by
  intro names target
  rw [below]
  dsimp only
  split
  · simp
  · next inner => exact linkless names target inner

end FileSystem

/-- What is found at a path that a project asks for is what is seen of the tree below its root. -/
theorem Project.look_resolve {project : Project} {root : String} {layout : Layout}
    (built : project = .ofRoot root ∨ withLayout root layout = .ok project) (given : root ≠ "")
    {fs : FileSystem} {here place : Place} (led : fs.locate here root = .ok place)
    (directory : fs.look here root = .ok .directory)
    (linkless : ∀ names target, names ≠ [] → fs.node? (place ++ names) ≠ some (.link target))
    {path : String} (listed : path ∈ project.layout.manifest :: project.layout.paths) :
    fs.look here (project.resolve path) =
      (fs.below place).seen (project.resolve path) (Path.segments path) := by
  obtain ⟨rfl, inside⟩ := staysBelow built
  rw [FileSystem.look_of_locate led, Except.ok.injEq] at directory
  exact FileSystem.look_join given (inside path listed) led directory
    (FileSystem.linkless_below linkless)

/-- A run sees the tree below the root of its project and nothing else. In two file systems in which
the root is a directory with the same tree below it, and no links in that tree, a run reports the
same, however the root is reached and whatever else the file systems hold. -/
theorem Project.run_eq_of_same_tree {project : Project} {root : String} {layout : Layout}
    (built : project = .ofRoot root ∨ withLayout root layout = .ok project) (given : root ≠ "")
    {fs other : FileSystem} {here hereOther place placeOther : Place}
    (led : fs.locate here root = .ok place)
    (ledOther : other.locate hereOther root = .ok placeOther)
    (directory : fs.look here root = .ok .directory)
    (directoryOther : other.look hereOther root = .ok .directory)
    (same : ∀ names, names ≠ [] → fs.node? (place ++ names) = other.node? (placeOther ++ names))
    (linkless : ∀ names target, names ≠ [] → fs.node? (place ++ names) ≠ some (.link target)) :
    project.run (fs.disk here) = project.run (other.disk hereOther) := by
  have linklessOther (names : Place) (target : String) (inner : names ≠ []) :
      other.node? (placeOther ++ names) ≠ some (.link target) := by
    rw [← same names inner]
    exact linkless names target inner
  refine run_congr fun path listed => Disk.AlikeAt.of_look ?_
  rw [look_resolve built given led directory linkless listed,
    look_resolve built given ledOther directoryOther linklessOther listed,
    FileSystem.below_congr same]

/-- A root that is a directory here and a link to a directory elsewhere there, with one tree below
and a path that is spelled in a roundabout way. -/
theorem Project.run_eq_of_same_tree_linked :
    let layout : Layout := ⟨"./m", ["x"], [], [⟨"s//.", false, false⟩, ⟨"m", true, true⟩]⟩
    let project : Project := ⟨"p", layout⟩
    let tree : Place → Option Node := fun names =>
      if names = ["m"] then some (.file (Text.Utf8.encode "x\n"))
      else if names = ["s"] then some .directory
      else none
    let fs : FileSystem := ⟨fun place =>
      match place with
      | "w" :: "p" :: names => if names = [] then some .directory else tree names
      | _ => none⟩
    let other : FileSystem := ⟨fun place =>
      match place with
      | ["w", "p"] => some (.link "/q/r")
      | ["q"] => some .directory
      | "q" :: "r" :: names => if names = [] then some .directory else tree names
      | _ => none⟩
    fs.node? ["w", "p"] ≠ other.node? ["w", "p"] ∧
      project.run (fs.disk ["w"]) = project.run (other.disk ["w"]) := by
  intro layout project tree fs other
  have linkless (names : Place) (target : String) (inner : names ≠ []) :
      fs.node? (["w", "p"] ++ names) ≠ some (.link target) := by
    change (if names = [] then some Node.directory else tree names) ≠ _
    rw [if_neg inner]
    dsimp only [tree]
    split_ifs <;> simp
  have built : withLayout "p" layout = .ok project := by
    have sound : layout.validate = .ok () := by decide
    rw [withLayout, sound]
  have led : fs.locate ["w"] "p" = .ok ["w", "p"] := by decide +kernel
  have ledOther : other.locate ["w"] "p" = .ok ["q", "r"] := by decide +kernel
  refine ⟨by decide, ?_⟩
  exact run_eq_of_same_tree (.inr built) (by decide) led ledOther (by decide +kernel)
    (by decide +kernel) (fun _ _ => rfl) linkless

/-! ## Changes elsewhere -/

/-- What is added to a file system outside the root of a project does not show in a report on it.
The root leads where it led, and the tree below it is the same. -/
theorem Project.run_eq_of_grows {project : Project} {root : String} {layout : Layout}
    (built : project = .ofRoot root ∨ withLayout root layout = .ok project) (given : root ≠ "")
    {fs other : FileSystem} {here place : Place} (tree : fs.IsTree)
    (standing : fs.isDirectory here = true) (led : fs.locate here root = .ok place)
    (directory : fs.look here root = .ok .directory)
    (linkless : ∀ names target, names ≠ [] → fs.node? (place ++ names) ≠ some (.link target))
    (grown : fs.Grows other)
    (apart : ∀ names, names ≠ [] → other.node? (place ++ names) = fs.node? (place ++ names)) :
    project.run (other.disk here) = project.run (fs.disk here) := by
  have ledStill : other.locate here root = .ok place := grown.locate tree standing led
  have directoryStill : other.look here root = .ok .directory :=
    grown.look_directory tree standing directory
  have linklessStill (names : Place) (target : String) (inner : names ≠ []) :
      other.node? (place ++ names) ≠ some (.link target) := by
    rw [apart names inner]
    exact linkless names target inner
  refine run_congr fun path listed => Disk.AlikeAt.of_look ?_
  rw [look_resolve built given led directory linkless listed,
    look_resolve built given ledStill directoryStill linklessStill listed,
    FileSystem.below_congr apart]

/-- A run does not depend on the directory it is started in, if its root starts at the top. -/
theorem Project.run_eq_of_isAbsolute {project : Project}
    (absolute : Path.isAbsolute project.root = true) (fs : FileSystem) (here hereOther : Place) :
    project.run (fs.disk here) = project.run (fs.disk hereOther) := by
  refine run_congr fun path _ => Disk.AlikeAt.of_look ?_
  have top : Path.isAbsolute (project.resolve path) = true := by
    cases relative : Path.isAbsolute path with
    | true => rw [resolve, Path.join, if_pos relative, relative]
    | false =>
      have given : project.root ≠ "" := by
        intro empty
        rw [empty] at absolute
        cases absolute
      rw [resolve, Path.isAbsolute_join given relative, absolute]
  rw [FileSystem.look, FileSystem.look, FileSystem.locate, FileSystem.locate, FileSystem.start,
    FileSystem.start, if_pos top, if_pos top]

end Preflight
