import FirmwareKit.Host.Tools.Printing
import FirmwareKit.Host.Tools.Lines

/-! Programs that make, copy, move and remove files. -/

namespace FirmwareKit.Host.Tools

/-- A name in a directory, as these programs write it. -/
def inside (dir name : String) : String :=
  if dir.endsWith "/" then dir ++ name else dir ++ "/" ++ name

/-- The place that a path leads to. -/
def placeOf (files : Files) (aim : Files.Aim) (path : String) : Option (List String) :=
  match files.locate aim ⟨path⟩ with
  | .ok (names, some _) => some names
  | _ => none

/-- Makes files that do not exist. -/
def touch (i : Invocation) : Works Unit := do
  let s ← i.switches ([{ word := "no-create", letter := some 'c' }, { letter := some 'a' },
    { letter := some 'm' }, { letter := some 'f' },
    { word := "date", letter := some 'd', hasValue := some true },
    { word := "reference", letter := some 'r', hasValue := some true },
    { letter := some 't', hasValue := some true }] ++ shared)
  if s.operands.isEmpty then i.misused "missing file operand"
  for name in s.operands do
    match (← get).files.locate .target ⟨name⟩ with
    | .ok (_, some _) => pure ()
    | found =>
      if !s.has "c" then
        let fault? ← match found with
          | .error fault =>
            if fault = .notFound && name.endsWith "/" then
              i.complain ("setting times of " ++ quote name ++ ": " ++ fault.reason)
              pure none
            else pure (some fault)
          | .ok _ =>
            if name.endsWith "/" then
              i.complain ("setting times of " ++ quote name ++ ": No such file or directory")
              pure none
            else Works.change (·.write ⟨name⟩ .empty)
        match fault? with
        | some fault => i.complain ("cannot touch " ++ quote name ++ ": " ++ fault.reason)
        | none => pure ()

/-- Makes a directory and says so if that is wanted. -/
def makeOne (i : Invocation) (tells : Bool) (name : String) : Works (Option Files.Fault) := do
  match ← Works.change (·.makeDir ⟨withoutSlashes name⟩) with
  | none =>
    if tells then Works.write (i.name ++ ": created directory " ++ quote name ++ "\n")
    return none
  | some fault => return some fault

/-- Makes directories. -/
def mkdir (i : Invocation) : Works Unit := do
  let s ← i.switches ([{ word := "parents", letter := some 'p' },
    { word := "verbose", letter := some 'v' },
    { word := "mode", letter := some 'm', hasValue := some true },
    { letter := some 'Z' }] ++ shared)
  if s.operands.isEmpty then i.misused "missing operand"
  for name in s.operands do
    let refuse (name : String) (fault : Files.Fault) : Works Unit :=
      i.complain ("cannot create directory " ++ quote name ++ ": " ++ fault.reason)
    if !s.has "p" then
      match ← makeOne i (s.has "v") name with
      | some fault => refuse name fault
      | none => pure ()
    else
      let steps := (Files.parentsOf ⟨withoutSlashes name⟩).map (·.text) ++ [name]
      let mut isOpen := true
      for step in steps do
        if isOpen && !(← get).files.isDir ⟨step⟩ then
          let isFile := (← get).files.isThere ⟨step⟩
          if isFile && step != name then
            refuse step .notDirectory
            isOpen := false
          else
            match ← makeOne i (s.has "v") step with
            | some fault =>
              refuse step fault
              isOpen := false
            | none => pure ()

/-- Why a directory is not removed by its name. -/
def removeDirFault (files : Files) (name : String) : Except String Files :=
  let lastName := (withoutSlashes name).toList.reverse.takeWhile (· != '/')
  match files.find .entry ⟨name⟩ with
  | .error fault => .error fault.reason
  | .ok _ =>
    if lastName = ['.'] then .error "Invalid argument"
    else
      match files.removeDir ⟨withoutSlashes name⟩ with
      | .ok files => .ok files
      | .error fault => .error fault.reason

/-- Removes directories that are empty. -/
def rmdir (i : Invocation) : Works Unit := do
  let s ← i.switches ([{ word := "parents", letter := some 'p' },
    { word := "verbose", letter := some 'v' },
    { word := "ignore-fail-on-non-empty" }] ++ shared)
  if s.operands.isEmpty then i.misused "missing operand"
  for name in s.operands do
    let parents := if s.has "p" then ((Files.parentsOf ⟨withoutSlashes name⟩).map (·.text)).reverse
      else []
    let mut isOpen := true
    for dir in name :: parents do
      if isOpen then
        if s.has "v" then Works.write (i.name ++ ": removing directory, " ++ quote dir ++ "\n")
        match removeDirFault (← get).files dir with
        | .ok files => modify fun w => { w with files }
        | .error reason =>
          isOpen := false
          if !(s.has "ignore-fail-on-non-empty" && reason = Files.Fault.notEmpty.reason) then
            i.complain ("failed to remove " ++ (if dir = name then "" else "directory ") ++
              quote dir ++ ": " ++ reason)

/-- Removes files, and directories if that is wanted. -/
def rm (i : Invocation) : Works Unit := do
  let s ← i.switches ([{ word := "recursive", letter := some 'r' },
    { word := "recursive", letter := some 'R' }, { word := "force", letter := some 'f' },
    { word := "dir", letter := some 'd' }, { word := "verbose", letter := some 'v' },
    { letter := some 'i' }, { letter := some 'I' }] ++ shared)
  let all := s.has "r" || s.has "R"
  if s.operands.isEmpty && !s.has "f" then i.misused "missing operand"
  for name in s.operands do
    let refuse (reason : String) : Works Unit :=
      i.complain ("cannot remove " ++ quote name ++ ": " ++ reason)
    let lastName :=
      String.ofList ((withoutSlashes name).toList.reverse.takeWhile (· != '/')).reverse
    match (← get).files.locate .entry ⟨name⟩ with
    | .error fault =>
      if !(s.has "f" && (fault = .notFound || fault = .notDirectory)) then refuse fault.reason
    | .ok (_, none) => if !s.has "f" then refuse Files.Fault.notFound.reason
    | .ok (names, some (.dir entries)) =>
      if all && (lastName = "." || lastName = "..") then
        i.complain ("refusing to remove '.' or '..' directory: skipping " ++ quote name)
      else if all then
        if s.has "v" then
          let paths := ((Node.dir entries).descendants.map fun (below, node) =>
            (inside name ("/".intercalate below), node)).reverse
          for (path, node) in paths do
            Works.write ((if node.isDir then "removed directory " else "removed ") ++ quote path ++
              "\n")
          Works.write ("removed directory " ++ quote name ++ "\n")
        modify fun w => { w with files := { w.files with root := w.files.root.erase names } }
      else if s.has "d" then
        match ← Works.change (·.removeDir ⟨name⟩) with
        | none => if s.has "v" then Works.write ("removed directory " ++ quote name ++ "\n")
        | some fault => refuse fault.reason
      else refuse Files.Fault.isDirectory.reason
    | .ok (_, some .locked) =>
      refuse (if all then Files.Fault.permissionDenied else Files.Fault.isDirectory).reason
    | .ok _ =>
      match ← Works.change (·.remove ⟨name⟩) with
      | none => if s.has "v" then Works.write ("removed " ++ quote name ++ "\n")
      | some fault => refuse fault.reason

/-- Where operands are to go: pairs of a source and its destination. -/
def destinations (i : Invocation) (s : Switched) : Works (List (String × String)) := do
  let files := (← get).files
  match s.value? "t", s.operands with
  | some dir, names =>
    if names.isEmpty then i.misused "missing file operand"
    if !files.isDir ⟨dir⟩ then
      i.refuse ("target directory " ++ quote dir ++ ": " ++
        (if files.isThere ⟨dir⟩ then Files.Fault.notDirectory else Files.Fault.notFound).reason)
    return names.map fun name => (name, inside dir (baseName name ""))
  | none, [] => i.misused "missing file operand"
  | none, [name] => i.misused ("missing destination file operand after " ++ quote name)
  | none, first :: second :: more =>
    let last := (second :: more).getLast?.getD second
    let sources := (first :: second :: more).dropLast
    if s.has "T" then
      match more with
      | [] => return [(first, second)]
      | extra :: _ => i.misused ("extra operand " ++ quote extra)
    else if files.isDir ⟨last⟩ then
      return sources.map fun name => (name, inside last (baseName name ""))
    else if more.isEmpty then return [(first, second)]
    else
      i.refuse ("target " ++ quote last ++ ": " ++
        (if files.isThere ⟨last⟩ then Files.Fault.notDirectory else Files.Fault.notFound).reason)

/-- The switches of the programs that copy and move. -/
def transferSwitches : List Switch :=
  [{ word := "archive", letter := some 'a' }, { word := "recursive", letter := some 'r' },
    { word := "recursive", letter := some 'R' }, { word := "force", letter := some 'f' },
    { word := "no-clobber", letter := some 'n' }, { word := "verbose", letter := some 'v' },
    { word := "no-dereference", letter := some 'P' }, { word := "dereference", letter := some 'L' },
    { letter := some 'p' }, { letter := some 'd' }, { letter := some 'u' }, { letter := some 'Z' },
    { word := "interactive", letter := some 'i' },
    { word := "no-target-directory", letter := some 'T' },
    { word := "target-directory", letter := some 't', hasValue := some true }] ++ shared

/-- Copies a file, a link, or a directory with all that is in it; `fuel` is more than how deep it
is. -/
def copyNode (i : Invocation) (s : Switched) (fuel : Nat) (source dest : String) (node : Node) :
    Works Unit := do
  match fuel with
  | 0 => pure ()
  | fuel + 1 =>
    let files := (← get).files
    let old := (files.find .target ⟨dest⟩).toOption
    let tell : Works Unit := do
      if s.has "v" then Works.write (quote source ++ " -> " ++ quote dest ++ "\n")
    match node, old with
    | .dir entries, old =>
      match old with
      | some (.file _) | some (.unnamed _) | some (.link _) =>
        i.complain ("cannot overwrite non-directory " ++ quote dest ++ " with directory " ++
          quote source)
      | some (.dir _) | some .locked =>
        for (name, child) in Node.byName entries do
          copyNode i s fuel (inside source name) (inside dest name) child
      | none =>
        match ← Works.change (·.makeDir ⟨withoutSlashes dest⟩) with
        | some fault =>
          i.complain ("cannot create directory " ++ quote dest ++ ": " ++ fault.reason)
        | none =>
          tell
          for (name, child) in Node.byName entries do
            copyNode i s fuel (inside source name) (inside dest name) child
    | .locked, _ =>
      i.complain
        ("cannot access " ++ quote source ++ ": " ++ Files.Fault.permissionDenied.reason)
    | _, some (.dir _) | _, some .locked =>
      i.complain ("cannot overwrite directory " ++ quote dest ++ " with non-directory")
    | .link target, _ =>
      match ← Works.change (·.replace ⟨dest⟩ (.link target)) with
      | some fault =>
        i.complain ("cannot create symbolic link " ++ quote dest ++ ": " ++ fault.reason)
      | none => tell
    | .file bytes, _ | .unnamed bytes, _ =>
      let entry := (files.find .entry ⟨dest⟩).toOption
      if entry.isSome && s.has "n" then pure ()
      else if entry.isSome && old.isNone then
        i.complain ("not writing through dangling symlink " ++ quote dest)
      else
        match ← Works.change (·.write ⟨dest⟩ bytes) with
        | some fault =>
          let fault := if fault = .isDirectory then .notDirectory else fault
          i.complain ("cannot create regular file " ++ quote dest ++ ": " ++ fault.reason)
        | none => tell

/-- Copies files. -/
def cp (i : Invocation) : Works Unit := do
  let s ← i.switches transferSwitches
  let all := s.has "r" || s.has "R" || s.has "a"
  let aim : Files.Aim := if (all || s.has "P" || s.has "d") && !s.has "L" then .entry else .target
  if s.has "n" then
    i.complain ("warning: behavior of -n is non-portable and may change in future; " ++
      "use --update=none instead") 0
  for (source, dest) in ← destinations i s do
    let files := (← get).files
    match files.find aim ⟨source⟩ with
    | .error fault => i.complain ("cannot stat " ++ quote source ++ ": " ++ fault.reason)
    | .ok node =>
      let same := (placeOf files aim source).isSome &&
        placeOf files aim source = placeOf files aim dest
      if node.isDir && !all then
        i.complain ("-r not specified; omitting directory " ++ quote source)
      else if same && !node.isDir then
        i.complain (quote source ++ " and " ++ quote dest ++ " are the same file")
      else
        let origin? := placeOf files .target source
        let target? := (files.locate .target ⟨dest⟩).toOption.map (·.1)
        let isInside := match origin?, target? with
          | some a, some b => node.isDir && a.isPrefixOf b
          | _, _ => false
        copyNode i s (node.descendants.length + 1) source dest node
        if isInside then
          i.complain
            ("cannot copy a directory, " ++ quote source ++ ", into itself, " ++ quote dest)

/-- Moves files. -/
def mv (i : Invocation) : Works Unit := do
  let s ← i.switches transferSwitches
  for (source, dest) in ← destinations i s do
    let files := (← get).files
    let bare := withoutSlashes source
    match files.locate .entry ⟨source⟩, files.find .entry ⟨bare⟩ with
    | .error fault, _ => i.complain ("cannot stat " ++ quote source ++ ": " ++ fault.reason)
    | .ok _, .error fault => i.complain ("cannot stat " ++ quote source ++ ": " ++ fault.reason)
    | .ok (names, _), .ok node =>
      let refuse (reason : String) : Works Unit :=
        i.complain ("cannot move " ++ quote source ++ " to " ++ quote dest ++ ": " ++ reason)
      let move (target : List String) : Works Unit := do
        modify fun w =>
          { w with files := { w.files with root := (w.files.root.erase names).insert target node } }
        if s.has "v" then Works.write ("renamed " ++ quote source ++ " -> " ++ quote dest ++ "\n")
      match files.locate .entry ⟨if node.isDir then withoutSlashes dest else dest⟩ with
      | .error fault =>
        let isOpen := fault = .notFound && dest.endsWith "/" &&
          (files.locate .entry ⟨withoutSlashes dest⟩).toOption.isSome
        refuse (if isOpen then Files.Fault.notDirectory else fault).reason
      | .ok (target, old) =>
        if target = names then
          i.complain (quote source ++ " and " ++ quote dest ++ " are the same file")
        else if node.isDir && names.isPrefixOf target then
          i.complain
            ("cannot move " ++ quote source ++ " to a subdirectory of itself, " ++ quote dest)
        else if old.isSome && s.has "n" then i.complain ("not replacing " ++ quote dest)
        else
          match node.isDir, old with
          | _, none =>
            if !node.isDir && dest.endsWith "/" then refuse Files.Fault.notDirectory.reason
            else move target
          | true, some (.dir []) => move target
          | true, some (.dir _) | true, some .locked =>
            i.complain ("cannot overwrite " ++ quote dest ++ ": Directory not empty")
          | true, some _ =>
            i.complain ("cannot overwrite non-directory " ++ quote dest ++ " with directory " ++
              quote source)
          | false, some (.dir _) | false, some .locked =>
            i.complain ("cannot overwrite directory " ++ quote dest ++ " with non-directory")
          | false, some _ => move target

/-- Makes links. A link that is not symbolic is a copy. -/
def ln (i : Invocation) : Works Unit := do
  let s ← i.switches ([{ word := "symbolic", letter := some 's' },
    { word := "force", letter := some 'f' }, { word := "no-dereference", letter := some 'n' },
    { word := "verbose", letter := some 'v' },
    { word := "no-target-directory", letter := some 'T' },
    { word := "target-directory", letter := some 't', hasValue := some true }] ++ shared)
  let files := (← get).files
  let isSame (last : String) : Bool := match files.find .entry ⟨last⟩ with
    | .ok (.link _) => s.has "n"
    | _ => false
  let pairs ← match s.value? "t", s.operands with
    | none, [name] => pure [(name, inside "." (baseName name ""))]
    | none, [name, last] =>
      if isSame last then pure [(name, last)] else destinations i s
    | _, _ => destinations i s
  for (source, dest) in pairs do
    let files := (← get).files
    let make (node : Node) (kind arrow : String) : Works Unit := do
      let refuse (fault : Files.Fault) : Works Unit :=
        i.complain ("failed to create " ++ kind ++ " link " ++ quote dest ++
          (if fault = .alreadyExists || s.has "s" then "" else " => " ++ quote source) ++ ": " ++
          fault.reason)
      match files.find .entry ⟨dest⟩ with
      | .ok (.dir _) | .ok .locked => refuse .alreadyExists
      | .ok _ =>
        if !s.has "f" then refuse .alreadyExists
        else
          let _ ← Works.change (·.replace ⟨dest⟩ node)
      | .error _ =>
        match ← Works.change (·.replace ⟨dest⟩ node) with
        | some fault => refuse fault
        | none => if s.has "v" then Works.write (quote dest ++ arrow ++ quote source ++ "\n")
    if s.has "s" then make (.link source) "symbolic" " -> "
    else
      match files.find .entry ⟨source⟩ with
      | .error fault => i.complain ("failed to access " ++ quote source ++ ": " ++ fault.reason)
      | .ok (.dir _) | .ok .locked =>
        i.complain (shellName source ++ ": hard link not allowed for directory")
      | .ok node =>
        if s.has "f" && placeOf files .entry source = placeOf files .entry dest then
          i.complain (quote source ++ " and " ++ quote dest ++ " are the same file")
        else make node "hard" " => "

end FirmwareKit.Host.Tools
