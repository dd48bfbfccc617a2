import TrackerAudit.Files.Basic

/-!
# File trees

A file tree is a value: the directories and files below a root. `World` adds the lines printed so far, and programs
that change a world can use files.

The root is the directory in which the programs run, and a path is walked from there component by component. Nothing is
known of what lies outside: an absolute path, and one on which `..` leads out of the root, is answered with
`FileError.notFound`, so that everything said of commands that change a world is about relative paths inside the tree.
-/

namespace TrackerAudit

/-- What can stand at a place in a file tree. -/
inductive FileNode
  | directory
  | file (content : Text)
  /-- a file whose bytes are no text -/
  | binary
  deriving DecidableEq

/-- The place of a node: the names on the way from the root. -/
abbrev Place := List Text

/-- The directories and files below a root, each place once and made of names that entries can have. -/
structure FileTree where
  nodes : List (Place × FileNode)
  once : (nodes.map (·.1)).Nodup
  names : ∀ n ∈ nodes, ∀ name ∈ n.1, Path.IsEntryName name
  deriving DecidableEq

namespace FileTree

/-- The tree of a root alone. -/
def empty : FileTree := ⟨[], List.nodup_nil, fun _ h => nomatch h⟩

/-- The node at a place. The root is a directory. -/
def node? (t : FileTree) (place : Place) : Option FileNode :=
  if place.isEmpty then some .directory else t.nodes.lookup place

/-- Put a node at a place, instead of the one that may be there. Nothing can be put at a place with a name that no entry
can have. -/
def put (t : FileTree) (place : Place) (node : FileNode) : FileTree :=
  if h : ∀ name ∈ place, Path.IsEntryName name then
    { nodes := (place, node) :: t.nodes.filter (·.1 != place)
      once := by
        have hothers : ((t.nodes.filter (·.1 != place)).map (·.1)).Nodup := t.once.sublist (List.filter_sublist.map _)
        exact List.nodup_cons.2 ⟨by simp, hothers⟩
      names := by
        intro n hn
        rcases List.mem_cons.1 hn with rfl | hn
        · exact h
        · exact t.names n (List.mem_filter.1 hn).1 }
  else t

/-- Put a directory at a place where nothing is. -/
def putMissing (t : FileTree) (place : Place) : FileTree :=
  if (t.node? place).isNone then t.put place .directory else t

/-- Put a node at a place, with directories on the way. -/
def putDeep (t : FileTree) (place : Place) (node : FileNode) : FileTree :=
  let parents := (List.range place.length).map place.take
  (parents.foldl putMissing t).put place node

/-- Walk on from a place, which must be a directory if there is a way to go. -/
def walk (t : FileTree) : (place : Place) → List Text → Except FileError Place
  | place, [] => .ok place
  | place, c :: rest =>
    match t.node? place with
    | none => .error .notFound
    | some .directory =>
      if Path.isIdle c then walk t place rest
      else if c = "..".toList then
        if place.isEmpty then .error .notFound else walk t place.dropLast rest
      else walk t (place ++ [c]) rest
    | some _ => .error .notDirectory

/-- The place that a path leads to. -/
def resolve (t : FileTree) (p : Path) : Except FileError Place :=
  if p.contains '\x00' then .error .badPath
  else if p.isEmpty || p.head? = some '/' then .error .notFound
  else t.walk [] (p.splitOn '/')

/-- The text of a file. -/
def readText (t : FileTree) (p : Path) : Except FileError Text := do
  match t.node? (← t.resolve p) with
  | some (.file content) => return content
  | some .binary => throw .notText
  | some .directory => throw .isDirectory
  | none => throw .notFound

/-- Whether there is a file with the path. -/
def isFile (t : FileTree) (p : Path) : Bool :=
  match t.resolve p with
  | .ok place =>
    match t.node? place with
    | some (.file _) => true
    | some .binary => true
    | _ => false
  | .error _ => false

/-- Whether there is a directory with the path. -/
def isDirectory (t : FileTree) (p : Path) : Bool :=
  match t.resolve p with
  | .ok place => t.node? place == some .directory
  | .error _ => false

/-- The names of the directories in a directory. -/
def directories (t : FileTree) (p : Path) : Except FileError (List Text) := do
  let place ← t.resolve p
  match t.node? place with
  | some .directory =>
    return t.nodes.filterMap fun (q, node) =>
      if node = .directory && q.dropLast = place then q.getLast? else none
  | some _ => throw .notDirectory
  | none => throw .notFound

/-- Create one directory. -/
def createDirectory (t : FileTree) (p : Path) : Except FileError FileTree := do
  let place ← t.resolve p
  match t.node? place with
  | some _ => throw .exists
  | none => return t.put place .directory

/-- Create a directory and its missing parents, of which there are fewer than `fuel`. -/
def createFrom (t : FileTree) : (fuel : Nat) → Path → FileTree × Except FileError Unit
  | 0, _ => (t, .error .notFound)
  | fuel + 1, p =>
    if p.isEmpty then (t, .ok ())
    else
      let settle := fun (t : FileTree) (e : FileError) => (t, if t.isDirectory p then .ok () else .error e)
      match t.createDirectory p with
      | .ok t => (t, .ok ())
      | .error .notFound =>
        match Path.parent? p with
        | none => (t, .error .notFound)
        | some parent =>
          match createFrom t fuel parent with
          | (t, .error e) => (t, .error e)
          | (t, .ok ()) =>
            match t.createDirectory p with
            | .ok t => (t, .ok ())
            | .error e => settle t e
      | .error e => settle t e

/-- Create a directory and its missing parents. -/
def createDirectories (t : FileTree) (p : Path) : FileTree × Except FileError Unit := t.createFrom (p.length + 1) p

/-- Create or replace a file. -/
def write (t : FileTree) (p : Path) (content : Text) : Except FileError FileTree := do
  let place ← t.resolve p
  match t.node? place with
  | some .directory => throw .isDirectory
  | _ => return t.put place (.file content)

end FileTree

/-- A file tree and the lines printed so far, last first. -/
structure World where
  tree : FileTree
  printed : List OutputLine := []

/-- Programs that change a world. -/
abbrev WorldM := StateM World

instance : Files WorldM where
  readText p := return (← get).tree.readText p
  isFile p := return (← get).tree.isFile p
  directories p := return (← get).tree.directories p
  createDirectories p := modifyGet fun w =>
    let (tree, result) := w.tree.createDirectories p
    (result, { w with tree })
  write p content := modifyGet fun w =>
    match w.tree.write p content with
    | .ok tree => (.ok (), { w with tree })
    | .error e => (.error e, w)
  print line := modify fun w => { w with printed := line :: w.printed }

end TrackerAudit
