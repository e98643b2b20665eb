import BridgeTypings.Emission
import BridgeTypings.Settings

namespace BridgeTypings

namespace SourceScan

def selects (scan : SourceScan) (file : String × ByteArray) : Bool :=
  Path.extension? file.1 == some scan.extension

def collectFile (scan : SourceScan) (path : String) (content : ByteArray) :
    Run (String × Declaration) := do
  let text ← .ofExcept ((FileSystem.decode content).mapError (.read path))
  let (name, d) ← (Exposure.collect text scan.markers).mapError (.inFile path)
  .report .debug "collected declaration"
    [("path", path), ("name", name), ("kind", d.kind.keyword),
      ("attributes", toString d.attributes.length)]
  return (name, d)

def collectFiles (scan : SourceScan) : Declarations → List (String × ByteArray) → Run Declarations
  | acc, [] => return acc
  | acc, (path, content) :: rest => do
      let (name, d) ← scan.collectFile path content
      collectFiles scan (acc.insert name d) rest

def collect (scan : SourceScan) (fs : FileSystem) : Run Declarations := do
  let files ← .ofExcept (fs.filesUnder scan.dir)
  let declarations ← scan.collectFiles .empty (files.filter scan.selects)
  .report .info "collected declarations"
    [("dir", scan.dir), ("count", toString declarations.size)]
  return declarations

end SourceScan

structure Generation where
  entries : EntryPoints
  declarations : Declarations
  output : String

namespace Generation

def readRunner (fs : FileSystem) (path : String) (pattern : RegistrationPattern) :
    Run EntryPoints := do
  .report .info "reading runner" [("path", path)]
  let text ← .ofExcept ((fs.read path).mapError (.read path))
  let entries ← (Registration.extract text pattern).mapError (.inFile path)
  .report .info "extracted entry points" [("count", toString entries.size)]
  return entries

def run (fs : FileSystem) (root : String) (settings : Settings) : Run Generation := do
  let entries ← readRunner fs (settings.runnerFile root) settings.runner.pattern
  let declarations ← (settings.sourceScan root).collect fs
  let output ← Emission.emit settings.renderer declarations entries
  return ⟨entries, declarations, output⟩

end Generation

end BridgeTypings
