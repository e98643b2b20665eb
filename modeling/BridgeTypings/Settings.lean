import BridgeTypings.Exposure
import BridgeTypings.FileTree
import BridgeTypings.Registration
import BridgeTypings.Rendering

namespace BridgeTypings

structure RunnerSettings where
  path : Option String := none
  className : Option String := none
  initMethod : Option String := none
  receiver : Option String := none
  registerMethod : Option String := none
deriving DecidableEq, Repr

structure ApiSettings where
  dir : Option String := none
  extension : Option String := none
  fieldMarker : Option String := none
  methodMarker : Option String := none
deriving DecidableEq, Repr

structure Settings where
  runner : RunnerSettings := {}
  api : ApiSettings := {}
  names : OrderedMap String := .empty

structure SourceScan where
  dir : String
  extension : String
  markers : Markers
deriving DecidableEq, Repr

namespace RunnerSettings

def merge (earlier later : RunnerSettings) : RunnerSettings where
  path := later.path <|> earlier.path
  className := later.className <|> earlier.className
  initMethod := later.initMethod <|> earlier.initMethod
  receiver := later.receiver <|> earlier.receiver
  registerMethod := later.registerMethod <|> earlier.registerMethod

def defaultPath : String :=
  "PHONK-android/phonk_apprunner/src/main/java/io/phonk/runner/apprunner/AppRunner.java"

def pattern (s : RunnerSettings) : RegistrationPattern :=
  let standard : RegistrationPattern := {}
  { className := s.className.getD standard.className
    initMethod := s.initMethod.getD standard.initMethod
    receiver := s.receiver.getD standard.receiver
    registerMethod := s.registerMethod.getD standard.registerMethod }

end RunnerSettings

namespace ApiSettings

def merge (earlier later : ApiSettings) : ApiSettings where
  dir := later.dir <|> earlier.dir
  extension := later.extension <|> earlier.extension
  fieldMarker := later.fieldMarker <|> earlier.fieldMarker
  methodMarker := later.methodMarker <|> earlier.methodMarker

def defaultDir : String :=
  "PHONK-android/phonk_apprunner/src/main/java/io/phonk/runner/apprunner/api"

def markers (s : ApiSettings) : Markers :=
  let standard : Markers := {}
  { field := s.fieldMarker.getD standard.field
    method := s.methodMarker.getD standard.method }

end ApiSettings

namespace Settings

def merge (earlier later : Settings) : Settings where
  runner := earlier.runner.merge later.runner
  api := earlier.api.merge later.api
  names := earlier.names.insertAll later.names.entries

def runnerFile (s : Settings) (root : String) : String :=
  Path.join root (s.runner.path.getD RunnerSettings.defaultPath)

def sourceScan (s : Settings) (root : String) : SourceScan where
  dir := Path.join root (s.api.dir.getD ApiSettings.defaultDir)
  extension := s.api.extension.getD "java"
  markers := s.api.markers

def renderer (s : Settings) : Renderer :=
  ({} : Renderer).addNames s.names.entries

end Settings

end BridgeTypings
