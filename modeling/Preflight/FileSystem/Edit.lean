import Preflight.FileSystem.Basic

/-!
Changes to a file system: writing files, making directories and links, and removing whatever a path
names. Missing directories on the way to a new file, directory or link are made.
-/

namespace Preflight.FileSystem

def put (fs : FileSystem) (place : Place) (node : Node) : FileSystem :=
  ⟨fun other => if other = place then some node else fs.node? other⟩

theorem node?_put (fs : FileSystem) (place other : Place) (node : Node) :
    (fs.put place node).node? other = if other = place then some node else fs.node? other := rfl

/-- The file system without a place and everything below it. -/
def prune (fs : FileSystem) (place : Place) : FileSystem :=
  ⟨fun other => if place.isPrefixOf other then none else fs.node? other⟩

theorem node?_prune (fs : FileSystem) (place other : Place) :
    (fs.prune place).node? other = if place.isPrefixOf other then none else fs.node? other := rfl

/-- The file system without what is below a place. -/
def clear (fs : FileSystem) (place : Place) : FileSystem :=
  ⟨fun other => if place.isPrefixOf other && other != place then none else fs.node? other⟩

theorem node?_clear (fs : FileSystem) (place other : Place) :
    (fs.clear place).node? other =
      if place.isPrefixOf other && other != place then none else fs.node? other := rfl

/-- The place of a name in a directory, if a directory can hold something of that name. -/
def placeFor (fs : FileSystem) (holder : Place) (name : String) : Except AccessFault Place :=
  if fs.isFile holder then .error .notDirectory
  else if name = "" ∨ name = "." ∨ name = ".." then .error .isDirectory
  else if '\x00' ∈ name.toList then .error .nulInPath
  else if name.utf8ByteSize > maxNameBytes then .error .nameTooLong
  else .ok (holder ++ [name])

/-- Walk from `here` along some segments and make a directory wherever there is nothing. -/
def makeAlong (fs : FileSystem) : Place → List String → Except AccessFault (FileSystem × Place)
  | here, [] => if fs.isFile here then .error .notDirectory else .ok (fs, here)
  | here, segment :: rest =>
      if fs.isFile here then .error .notDirectory
      else if segment = "" ∨ segment = "." then fs.makeAlong here rest
      else if segment = ".." then fs.makeAlong here.dropLast rest
      else do
        let place ← fs.placeFor here segment
        match fs.node? place with
        | none => (fs.put place .directory).makeAlong place rest
        | some (.link _) => fs.makeAlong (← fs.walk maxLinks here [segment]) rest
        | some _ => fs.makeAlong place rest

/-- The file system in which a path names a directory. -/
def makeDirectory (fs : FileSystem) (here : Place) (path : String) :
    Except AccessFault FileSystem := do
  let (fs, _) ← fs.makeAlong (start here path) (Path.segments path)
  return fs

/-- The directory that is to hold what a path names, made if needed, and the name within it. -/
def makeHolder (fs : FileSystem) (here : Place) (path : String) :
    Except AccessFault (FileSystem × Place × String) := do
  match (Path.segments path).reverse with
  | [] => throw .notFound
  | name :: above =>
      let (fs, holder) ← fs.makeAlong (start here path) above.reverse
      return (fs, holder, name)

/-- The place where a file is written under `name` in the directory `holder`: links are followed,
even one that leads to nothing yet. -/
def writingPlace (fs : FileSystem) : Nat → Place → String → Except AccessFault Place
  | 0, _, _ => .error .tooManyLinks
  | links + 1, holder, name => do
      let place ← fs.placeFor holder name
      match fs.node? place with
      | some (.link target) =>
          match (Path.segments target).reverse with
          | [] => .error .notFound
          | last :: above =>
              fs.writingPlace links (← fs.walk maxLinks (start holder target) above.reverse) last
      | _ => .ok place

/-- The file system in which a path names a file with these bytes. -/
def write (fs : FileSystem) (here : Place) (path : String) (bytes : List UInt8) :
    Except AccessFault FileSystem := do
  let (fs, holder, name) ← fs.makeHolder here path
  let place ← fs.writingPlace (maxLinks + 1) holder name
  match fs.node? place with
  | some .directory => throw .isDirectory
  | some (.locked fault) => throw fault
  | _ => return fs.put place (.file bytes)

/-- The file system in which a path names a symbolic link to `target`. -/
def makeLink (fs : FileSystem) (here : Place) (path target : String) :
    Except AccessFault FileSystem := do
  let (fs, holder, name) ← fs.makeHolder here path
  let place ← fs.placeFor holder name
  match fs.node? place with
  | some _ => throw (.other "File exists (os error 17)")
  | none => return fs.put place (.link target)

/-- The file system in which the directory that some segments lead to, if they lead to one, is
empty. -/
def clearAlong (fs : FileSystem) (origin : Place) (segments : List String) : FileSystem :=
  match fs.walk maxLinks origin segments with
  | .ok place => if fs.isDirectory place then fs.clear place else fs
  | .error _ => fs

/-- The file system without what a path names: a file, a link, or a directory and all below it. A
path that names nothing changes nothing, and neither does one that is too long. Slashes at the end
ask for a directory. A directory that a path reaches without its own name, through a link or by
dots, is only emptied. -/
def remove (fs : FileSystem) (here : Place) (path : String) : FileSystem :=
  let segments := Path.segments path
  if path.utf8ByteSize > maxPathBytes then fs
  else
    match segments.reverse.dropWhile (· = "") with
    | [] => fs
    | name :: above =>
        if name = "." ∨ name = ".." then fs.clearAlong (start here path) segments
        else
          match fs.walk maxLinks (start here path) above.reverse with
          | .ok holder =>
              let place := holder ++ [name]
              if segments.getLast? ≠ some "" ∨ fs.isDirectory place then fs.prune place
              else fs.clearAlong (start here path) segments
          | .error _ => fs

end Preflight.FileSystem
