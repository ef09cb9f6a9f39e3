import SqlSurvey.FileTrees

/-! # Resolving paths

A path is resolved name by name: links are replaced by what they lead to and two points take the name before
them away. What is missing stays as it is. A link that leads back to itself stops the resolution, and the rest
of the path stays as it is too. -/
namespace SqlSurvey.Workspace

/-- Links nested deeper than this count as a loop. -/
def maxNesting : Nat := 1000

/-- The target of the link that stands at the path itself, if there is one. -/
def linkAt? (workspace : Workspace) (path : Path) : Option Text :=
  match workspace.find .inspect path with
  | .ok (.entry _ (.link target)) => some target
  | _ => none

/-- The path above a resolved path. Above the start there are only more pairs of points. -/
def above (path : Path) : Path :=
  match path.parts.getLast? with
  | none => if path.root = .here then path.child Path.twoPoints else path
  | some name => if name = Path.twoPoints then path.child Path.twoPoints else path.parent

/-- Where a resolution that goes on from a path starts behind the given root. -/
def startFor (path : Path) (root : PathRoot) : Path := if root = .here then path else ⟨.slash, []⟩

abbrev KnownLinks := List (Path × Path)

/-- How a resolution ends: with a path and the links known by then, early with a path that is resolved in part, or
at a name that no entry can have. -/
inductive Resolution where
  | done (path : Path) (known : KnownLinks)
  | stopped (path : Path)
  | refused (fault : NameFault)

/-- The path with the pieces that are left, as they stand. -/
def stop (path : Path) (rest : List Text) : Resolution :=
  .stopped (path.extend (Text.joinWith [Path.slash] rest))

/-- Resolves the pieces of a text behind a resolved path. The links on whose way it is are `active`; `descend` resolves
the target of one more link, unless links are nested too deep. -/
def resolveWith (workspace : Workspace)
    (descend : List Path → KnownLinks → Path → List Text → Option Resolution) (active : List Path)
    (known : KnownLinks) (path : Path) : List Text → Resolution
  | [] => .done path known
  | name :: rest =>
    if name.isEmpty || name = Path.point then resolveWith workspace descend active known path rest
    else if name = Path.twoPoints then resolveWith workspace descend active known (above path) rest
    else
      let next := path.child name
      match next.fault? with
      | some fault => .refused fault
      | none =>
        match workspace.linkAt? next with
        | none => resolveWith workspace descend active known next rest
        | some target =>
          match known.lookup next with
          | some resolved => resolveWith workspace descend active known resolved rest
          | none =>
            if active.contains next then stop next rest
            else match descend (next :: active) known (startFor path (Path.rootOf target))
                (Text.splitOn Path.slash target) with
              | none => stop next rest
              | some (.done resolved known) =>
                resolveWith workspace descend active ((next, resolved) :: known) resolved rest
              | some (.stopped partly) => stop partly rest
              | some (.refused fault) => .refused fault

def resolvePieces (workspace : Workspace) : Nat → List Path → KnownLinks → Path → List Text → Resolution
  | 0 => workspace.resolveWith fun _ _ _ _ => none
  | nesting + 1 => workspace.resolveWith fun active known path pieces =>
      some (resolvePieces workspace nesting active known path pieces)

/-- The names that are left when two points take the name before them away. -/
def withoutPoints (names : List Text) : List Text :=
  names.foldl (fun kept name => if name = Path.twoPoints then kept.dropLast else kept ++ [name]) []

def absolute (workspace : Workspace) (path : Path) : Path :=
  match path.root with
  | .here => ⟨.slash, withoutPoints (workspace.current ++ path.parts)⟩
  | root => ⟨root, withoutPoints path.parts⟩

/-- The absolute path that a path leads to, as far as it can be resolved. -/
def canonical (workspace : Workspace) (path : Path) : Except FileError Path :=
  match workspace.resolvePieces maxNesting [] [] (startFor ⟨.here, []⟩ path.root) path.parts with
  | .done resolved _ => .ok (workspace.absolute resolved)
  | .stopped partly => .ok (workspace.absolute partly)
  | .refused fault => .error (.name fault)

inductive ResolveError where
  | loop (place : Path)
  | file (error : FileError)

/-- The absolute form of a path; one that still runs into a loop of links is refused. -/
def resolve (workspace : Workspace) (path : Path) : Except ResolveError Path :=
  match workspace.canonical path with
  | .error error => .error (.file error)
  | .ok resolved =>
    match workspace.entryAt resolved with
    | .error (.system .tooManyLinks _) => .error (.loop resolved)
    | .error (.name fault) => .error (.file (.name fault))
    | _ => .ok resolved

end SqlSurvey.Workspace
