import FirmwareKit.Command.Printed
import FirmwareKit.Config.Writer
import FirmwareKit.Summary

/-! The init command. It writes the default settings to a file in the working
directory, unless there is one. -/

namespace FirmwareKit.Init

/-- The bytes of the default settings. -/
def defaultBytes : ByteArray :=
  Config.default.pretty.toUTF8

/-- The init command, with the files it leaves behind. -/
def run (files : Files) : Printed CommandResult × Files :=
  let path : Path := ⟨Config.fileName⟩
  if files.isThere path then (⟨[], .error .configExists⟩, files)
  else
    match files.write path defaultBytes with
    | .error fault => (⟨[], .error (.configUnwritable fault)⟩, files)
    | .ok files => (⟨[], .ok ⟨.init path, false⟩⟩, files)

end FirmwareKit.Init
