import BridgeTypings.CommandLine

namespace BridgeTypings.Disk

def environment : IO Settings.Environment := do
  let home ← IO.getEnv "HOME"
  return ⟨home.getD "", ← IO.getEnv "XDG_CONFIG_HOME"⟩

def start : IO FileSystem := do
  let here ← IO.currentDir
  let fs : FileSystem := ⟨[], []⟩
  let fs := fs.insert here.toString FileTree.emptyDirectory
  return { fs with directory := fs.place here.toString }

partial def look (path : String) : IO FileTree := do
  let node := (← IO.currentDir) / path
  if ← node.isDir then
    let entries ← (← node.readDir).toList.mapM (fun e => do
      let tree ←
        if (← e.path.symlinkMetadata).type == .symlink then pure (FileTree.link "")
        else look e.path.toString
      return (e.fileName, tree))
    return .directory entries
  else
    return .file (← IO.FS.readBinFile node)

def learn (fs : FileSystem) (path : String) : IO FileSystem := do
  let parts := Path.parts path
  let mut known := fs
  for n in List.range parts.length do
    let above := "/".intercalate (parts.take n)
    if ← ((← IO.currentDir) / above).isDir then
      known := known.insert above FileTree.emptyDirectory
  match ← (look path).toBaseIO with
  | .ok node => return known.insert path node
  | .error _ => return known

def learnFor (env : Settings.Environment) (o : CommandLine.Options) (fs : FileSystem) :
    IO FileSystem := do
  let path := o.path.getD ""
  let files := (Settings.globalPath? env).toList ++ [Settings.projectPath path] ++ o.config.toList
  let known ← files.foldlM learn fs
  match (CommandLine.settings known env o).result with
  | .error _ => return known
  | .ok settings => [settings.runnerFile path, (settings.sourceScan path).dir].foldlM learn known

end BridgeTypings.Disk

open BridgeTypings in
def main (args : List String) : IO UInt32 := do
  let env ← Disk.environment
  let mut fs ← Disk.start
  if let .run o := CommandLine.parse args then
    fs ← Disk.learnFor env o fs
    for line in CommandLine.log fs env o do
      IO.eprintln line
  let outcome := CommandLine.run fs env args
  IO.print outcome.stdout
  IO.eprint outcome.stderr
  return outcome.exit.toUInt32
