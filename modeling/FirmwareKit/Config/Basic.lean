/-! The settings of a project and their defaults. -/

namespace FirmwareKit

/-- A patch to apply once. Target and sentinel are relative to the dependency's directory; that
directory and the patch file are relative to the project's root. -/
structure PatchEntry where
  dependencyDir : String
  target : String
  patch : String
  sentinel : String
  deriving DecidableEq, Repr

/-- The settings of a project. -/
structure Config where
  langRoot : String
  langExtension : String
  sourceExtensions : List String
  ignores : List String
  callName : String
  exemptionMarker : String
  patches : List PatchEntry
  deriving DecidableEq, Repr

namespace PatchEntry

/-- The name of a sentinel that is not set. -/
def defaultSentinel : String := ".patching-done"

end PatchEntry

namespace Config

/-- The settings where nothing is set. -/
def default : Config where
  langRoot := "data/lang"
  langExtension := "lang"
  sourceExtensions := ["cpp", "c", "h", "hpp", "ino"]
  ignores := []
  callName := "localized_string"
  exemptionMarker := "esper:untranslated"
  patches :=
    [{ dependencyDir := ".pio/libdeps/esp32dev/ArduinoAudioTools"
       target := "src/AudioTools/CoreAudio/AudioHttp/HttpLineReader.h"
       patch := "helper/patches/yield_in_linereader.patch"
       sentinel := PatchEntry.defaultSentinel }]

/-- The name of the file that holds a project's settings. -/
def fileName : String := ".esperrc.json"

end Config

end FirmwareKit
