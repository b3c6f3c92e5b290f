import ArtifactRules.Path

/-! A tree of files and directories. Paths are followed part by part from the top directory or from
the current one, and every way in which this can fail has an error of its own. -/

namespace ArtifactRules

inductive Content
  | text (value : String)
  /-- Bytes that encode no text. -/
  | bytes (value : List UInt8)
  deriving DecidableEq

/-- The steps from the top directory. -/
abbrev Place := List String

inductive Node
  | file (content : Content)
  | directory
  deriving DecidableEq

inductive FileError
  | missing | alreadyThere | notDirectory | isDirectory | nameTooLong | nulInName | notText
  deriving DecidableEq, Repr

def FileError.message : FileError → String
  | missing => "No such file or directory (os error 2)"
  | alreadyThere => "File exists (os error 17)"
  | notDirectory => "Not a directory (os error 20)"
  | isDirectory => "Is a directory (os error 21)"
  | nameTooLong => "File name too long (os error 36)"
  | nulInName => "file name contained an unexpected NUL byte"
  | notText => "stream did not contain valid UTF-8"

structure FileTree where
  entries : List (Place × Node) := []
  /-- Where relative paths start. -/
  current : Place := []

namespace FileTree

/-- The top directory is always there. -/
def node? (tree : FileTree) (place : Place) : Option Node :=
  if place = [] then some .directory else tree.entries.lookup place

def isDirectory (tree : FileTree) (place : Place) : Bool :=
  tree.node? place == some .directory

def put (tree : FileTree) (place : Place) (node : Node) : FileTree :=
  { tree with entries := (place, node) :: tree.entries.filter fun entry => entry.1 != place }

@[simp] theorem current_put (tree : FileTree) (place : Place) (node : Node) :
    (tree.put place node).current = tree.current := rfl

theorem lookup_filter_ne (entries : List (Place × Node)) {place other : Place}
    (h : other ≠ place) :
    (entries.filter fun entry => entry.1 != place).lookup other = entries.lookup other := by
  induction entries with
  | nil => rfl
  | cons entry entries ih =>
    obtain ⟨p, node⟩ := entry
    by_cases hp : p = place
    · subst hp
      have hne : (other == p) = false := by simpa using h
      simp [List.lookup_cons, hne, ih]
    · simp [hp, List.lookup_cons, ih]

theorem node?_put (tree : FileTree) {place : Place} (node : Node) (h : place ≠ [])
    (other : Place) :
    (tree.put place node).node? other = if other = place then some node else tree.node? other := by
  by_cases ho : other = place
  · simp [node?, put, ho, h]
  · have hne : (other == place) = false := by simpa using ho
    simp [node?, put, ho, List.lookup_cons, hne, lookup_filter_ne tree.entries ho]

/-- A node with directories at every place above it. -/
def plant (tree : FileTree) (place : Place) (node : Node) : FileTree :=
  let above := (List.range place.length).map place.take
  (above.foldl (fun tree p => tree.put p .directory) tree).put place node

/-- Every file, with its place. -/
def files (tree : FileTree) : List (Place × Content) :=
  tree.entries.filterMap fun
    | (place, .file content) => some (place, content)
    | (_, .directory) => none

/-- In bytes. -/
def maxName : Nat := 255

/-- In bytes, with the one that ends a path. -/
def maxPath : Nat := 4096

/-- The place that the parts lead to. Every part starts from a directory. -/
def walk (tree : FileTree) (place : Place) : List String → Except FileError Place
  | [] => .ok place
  | part :: parts =>
    if tree.isDirectory place then
      if part = "" ∨ part = Path.here then walk tree place parts
      else if part = Path.up then walk tree place.dropLast parts
      else if maxName < part.utf8ByteSize then .error .nameTooLong
      else match tree.node? (place ++ [part]) with
        | none => .error .missing
        | some _ => walk tree (place ++ [part]) parts
    else .error .notDirectory

def start (tree : FileTree) (path : Path) : Place :=
  if path.isAbsolute then [] else tree.current

/-- The places that the parts lead through, in order, whether or not anything is there. -/
def placesFrom (place : Place) : List String → List Place
  | [] => [place]
  | part :: parts =>
    if part = "" ∨ part = Path.here then placesFrom place parts
    else if part = Path.up then place :: placesFrom place.dropLast parts
    else place :: placesFrom (place ++ [part]) parts

/-- The places that a path passes. -/
def passed (tree : FileTree) (path : Path) : List Place :=
  placesFrom (tree.start path) path.parts

/-- What is wrong with a path whatever the tree. -/
def checkPath (path : Path) : Except FileError Unit :=
  if path.text.toList.contains '\x00' then .error .nulInName
  else if path.text = "" then .error .missing
  else if maxPath ≤ path.text.utf8ByteSize then .error .nameTooLong
  else .ok ()

/-- The place of a file or directory that is there. -/
def locate (tree : FileTree) (path : Path) : Except FileError Place := do
  checkPath path
  tree.walk (tree.start path) path.parts

def has (tree : FileTree) (path : Path) : Bool :=
  (tree.locate path).isOk

def read (tree : FileTree) (path : Path) : Except FileError String := do
  match tree.node? (← tree.locate path) with
  | some (.file (.text value)) => .ok value
  | some (.file (.bytes _)) => .error .notText
  | some .directory => .error .isDirectory
  | none => .error .missing

/-- The place of a file that can be written: its directory is there, and it is no directory itself.
A path that ends in a separator names a directory. -/
def target (tree : FileTree) (path : Path) : Except FileError Place := do
  checkPath path
  match path.parts.reverse.dropWhile (· == "") with
  | [] => .error .isDirectory
  | last :: before =>
    let directory ← tree.walk (tree.start path) before.reverse
    if !tree.isDirectory directory then .error .notDirectory
    else if last = Path.here ∨ last = Path.up ∨ path.parts.getLast? = some "" then
      .error .isDirectory
    else if maxName < last.utf8ByteSize then .error .nameTooLong
    else if tree.isDirectory (directory ++ [last]) then .error .isDirectory
    else .ok (directory ++ [last])

def write (tree : FileTree) (path : Path) (text : String) : Except FileError FileTree := do
  return tree.put (← tree.target path) (.file (.text text))

/-- One new directory, in one that is there. -/
def makeDirectory (tree : FileTree) (path : Path) : Except FileError FileTree := do
  checkPath path
  match path.steps.reverse with
  | [] => .error .alreadyThere
  | last :: before =>
    let directory ← tree.walk (tree.start path) before.reverse
    if !tree.isDirectory directory then .error .notDirectory
    else if last = Path.up then .error .alreadyThere
    else if maxName < last.utf8ByteSize then .error .nameTooLong
    else if (tree.node? (directory ++ [last])).isSome then .error .alreadyThere
    else .ok (tree.put (directory ++ [last]) .directory)

/-- A failure to make a directory that is there does not count. -/
def unlessDirectory (tree : FileTree) (path : Path) (error : FileError) : Except FileError Unit :=
  match tree.locate path with
  | .ok place => if tree.isDirectory place then .ok () else .error error
  | .error _ => .error error

/-- The directory that the steps lead to, the last step first, with all those above it. What was
made before a failure stays. -/
def makeDirectories (tree : FileTree) (absolute : Bool) :
    List String → FileTree × Except FileError Unit
  | [] => (tree, .ok ())
  | last :: before =>
    let path := Path.ofSteps absolute (last :: before).reverse
    match tree.makeDirectory path with
    | .ok made => (made, .ok ())
    | .error .missing =>
      match makeDirectories tree absolute before with
      | (above, .error error) => (above, .error error)
      | (above, .ok ()) =>
        match above.makeDirectory path with
        | .ok made => (made, .ok ())
        | .error error => (above, above.unlessDirectory path error)
    | .error error => (tree, tree.unlessDirectory path error)

/-- A file together with the directories it needs. -/
def save (tree : FileTree) (path : Path) (text : String) : FileTree × Except FileError Unit :=
  let (ready, made) :=
    if path.parent.text = "" ∨ tree.has path.parent then (tree, .ok ())
    else tree.makeDirectories path.isAbsolute path.parent.steps.reverse
  match made with
  | .error error => (ready, .error error)
  | .ok () =>
    match ready.write path text with
    | .ok written => (written, .ok ())
    | .error error => (ready, .error error)

end FileTree
end ArtifactRules
