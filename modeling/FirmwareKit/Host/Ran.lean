import FirmwareKit.Failure
import FirmwareKit.Notice
import FirmwareKit.Text.Utf8

/-! What a program of the system leaves behind when it has run. -/

namespace FirmwareKit.Host

/-- Bytes that a program writes at once. -/
structure Chunk where
  stream : Stream
  bytes : ByteArray

namespace Chunk

/-- Text on the output. -/
def out (text : String) : Chunk := ⟨.output, text.toUTF8⟩

/-- Text on the error stream. -/
def err (text : String) : Chunk := ⟨.errors, text.toUTF8⟩

/-- All bytes that reach a stream. -/
def gather (stream : Stream) (chunks : List Chunk) : ByteArray :=
  (chunks.filter (·.stream == stream)).foldl (fun bytes chunk => bytes ++ chunk.bytes) .empty

/-- What is seen of the chunks. -/
def notices (chunks : List Chunk) : List Notice :=
  [Stream.output, Stream.errors].filterMap fun stream =>
    match Text.showBytes (gather stream chunks) with
    | "" => none
    | text => some ⟨stream, [.plain text]⟩

end Chunk

/-- What a program leaves behind: the files, what it wrote, how it ended unless it was successful,
and how many bytes of its input it has taken. -/
structure Ran where
  files : Files
  chunks : List Chunk := []
  ended : Option Termination := none
  taken : Nat := 0

/-- A program that ended with an exit code. -/
def Ran.exited (files : Files) (chunks : List Chunk) (code : Nat) : Ran :=
  { files, chunks, ended := if code = 0 then none else some (.exited code) }

/-- The code of a program that cannot write what it has to. -/
def unwrittenCode (name : String) : Nat :=
  match name with
  | "ls" | "grep" | "sort" => 2
  | "expr" => 3
  | "sed" => 4
  | "env" => 125
  | _ => 1

/-- What a program leaves behind if its output leads nowhere: it fails where it has something to
write, and `cat` fails at once. -/
def Ran.withoutOutput (name : String) (ran : Ran) : Ran :=
  let told := ran.chunks.filter (·.stream != .output)
  let failing (told : List Chunk) (text : String) : Ran :=
    { ran with
      chunks := told ++ [.err (name ++ ": " ++ text ++ ": Bad file descriptor\n")]
      ended := some (.exited (unwrittenCode name)) }
  if name = "cat" then failing [] "standard output"
  else if (Chunk.gather .output ran.chunks).isEmpty || name = "sh" || name = "rev" then
    { ran with chunks := told }
  else if name = "sed" then failing told "couldn't close stdout"
  else failing told "write error"

end FirmwareKit.Host
