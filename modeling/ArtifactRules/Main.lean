import ArtifactRules.Program

/-! The command line. A run works on an image of the files that its paths lead to, and what it
changed is written back. -/

namespace ArtifactRules
namespace CommandLine

def placeText (place : Place) : String :=
  "/" ++ Text.join "/" place

def content (bytes : ByteArray) : Content :=
  match String.fromUTF8? bytes with
  | some text => .text text
  | none => .bytes bytes.toList

/-- The tree with what is found at a place. -/
def observePlace (tree : FileTree) (place : Place) : IO FileTree := do
  let file := (← IO.currentDir) / placeText place
  if ← file.isDir then return tree.put place .directory
  if ← file.pathExists then return tree.put place (.file (content (← IO.FS.readBinFile file)))
  return tree

def observe (tree : FileTree) (path : Path) : IO FileTree :=
  (tree.passed path).foldlM observePlace tree

/-- Directories are made before the files in them are written. -/
def store (before after : FileTree) : IO Unit := do
  for (place, node) in after.entries.reverse do
    if before.node? place != some node then
      let file := (← IO.currentDir) / placeText place
      match node with
      | .directory => IO.FS.createDirAll file
      | .file (.text text) => IO.FS.writeFile file text
      | .file (.bytes bytes) => IO.FS.writeBinFile file ⟨bytes.toArray⟩

def pathVariable (name : String) : IO (Option Path) := do
  return (← IO.getEnv name).bind fun text => if text = "" then none else some ⟨text⟩

def surroundings : IO Surroundings := do
  let forced := (← IO.getEnv "CLICOLOR_FORCE").any (· != "0")
  let refused := (← IO.getEnv "NO_COLOR").isSome || (← IO.getEnv "CLICOLOR") == some "0"
  let terminal ← (← IO.getStdout).isTty
  return {
    home := ← pathVariable "HOME"
    settingsHome := (← pathVariable "XDG_CONFIG_HOME").filter Path.isAbsolute
    colours := forced || (!refused && terminal)
    log := (← IO.getEnv "RUST_LOG") != some "off" }

def run (arguments : List String) : IO UInt32 := do
  let around ← surroundings
  let current := (Path.mk (toString (← IO.currentDir))).steps
  let start ← observe { current } ⟨placeText current⟩
  let known ← (Program.paths around arguments start).foldlM observe start
  let before ← (Program.paths around arguments known).foldlM observe known
  let finished := Program.run around arguments before
  store before finished.tree
  IO.print finished.output
  IO.eprint finished.errors
  return finished.code

end CommandLine
end ArtifactRules

def main (arguments : List String) : IO UInt32 :=
  ArtifactRules.CommandLine.run arguments
