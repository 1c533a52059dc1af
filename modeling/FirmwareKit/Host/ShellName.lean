/-! Names as a shell would have to be given them. -/

namespace FirmwareKit.Host

namespace ShellName

/-- Characters that a shell gives a meaning to wherever they stand. -/
def isSpecial (c : Char) : Bool :=
  " \t\n!\"$&'()*;<=>?[\\]^`|".toList.contains c

/-- Characters that mean the same between single and between double quotes; the last two do so at
the start of a name. -/
def isPlainQuoted (c : Char) (isFirst : Bool) : Bool :=
  c.isAlphanum || "%+,-./:@]_ '".toList.contains c || isFirst && (c = '~' || c = '#')

/-- The name needs quotes. -/
def needsQuotes (name : List Char) : Bool :=
  match name with
  | [] | '#' :: _ | '~' :: _ | ['\x7b'] | ['\x7d'] => true
  | _ => name.any isSpecial

/-- The name can stand between double quotes although it has a single one. -/
def fitsDouble (name : List Char) : Bool :=
  name.contains '\'' && name.zipIdx.all fun (c, i) => isPlainQuoted c (i = 0)

end ShellName

/-- A name in quotes if it needs them: in double ones if it has single ones and nothing that keeps
a meaning between double ones. -/
def shellName (name : String) : String :=
  let cs := name.toList
  if !ShellName.needsQuotes cs then name
  else if ShellName.fitsDouble cs then "\"" ++ name ++ "\""
  else "'" ++ name.replace "'" "'\\''" ++ "'"

end FirmwareKit.Host
