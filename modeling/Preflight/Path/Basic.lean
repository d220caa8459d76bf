/-!
Paths as text: their segments between slashes, the components those segments stand for, and the
joining of a path below a root.

A path keeps the spelling it was given. Segments are what a walk through a file system reads one
by one; components are the reading in which doubled slashes, trailing slashes and inner dots no
longer show.
-/

namespace Preflight.Path

/-- The characters between slashes. There is one segment more than there are slashes, so the empty
path has one empty segment and a trailing slash ends in one. -/
def splitSlash : List Char → List (List Char)
  | [] => [[]]
  | c :: rest =>
      if c = '/' then [] :: splitSlash rest
      else
        match splitSlash rest with
        | [] => [[c]]
        | segment :: others => (c :: segment) :: others

theorem splitSlash_ne_nil (path : List Char) : splitSlash path ≠ [] := by
  cases path with
  | nil => exact List.cons_ne_nil _ _
  | cons c rest =>
      rw [splitSlash]
      split
      · exact List.cons_ne_nil _ _
      · split <;> exact List.cons_ne_nil _ _

def segments (path : String) : List String :=
  (splitSlash path.toList).map String.ofList

/-- Whether a path starts at the top of the file system rather than at the working directory. -/
def isAbsolute (path : String) : Bool :=
  path.toList.head? == some '/'

/-- The path that `path` names when it is read from `root`: the two texts with one slash between
them. An absolute path stands for itself. -/
def join (root path : String) : String :=
  if isAbsolute path then path
  else if root.isEmpty || root.toList.getLast? == some '/' then root ++ path
  else root ++ "/" ++ path

inductive Component where
  /-- The top of the file system. -/
  | top
  /-- The directory already reached. -/
  | here
  /-- The directory above. -/
  | parent
  | name (text : String)
  deriving DecidableEq, Repr

/-- The component that a segment after the first stands for, if any: an empty segment and a dot
stand for none. -/
def Component.ofSegment? (segment : String) : Option Component :=
  if segment = "" then none
  else if segment = "." then none
  else if segment = ".." then some .parent
  else some (.name segment)

/-- The components of a path. A leading slash is the component `top`, and a dot that opens a
relative path is the component `here`; every other empty segment or dot is dropped. -/
def components (path : String) : List Component :=
  match segments path with
  | [] => []
  | "" :: [] => []
  | "" :: others => .top :: others.filterMap Component.ofSegment?
  | "." :: others => .here :: others.filterMap Component.ofSegment?
  | first :: others => (first :: others).filterMap Component.ofSegment?

end Preflight.Path
