import FirmwareKit.Host.Tools.Lines

/-! Programs that bring lines into an order, and that compare neighbours. -/

namespace FirmwareKit.Host.Tools

/-- What a line is sorted by. -/
structure SortKey where
  first : Nat
  last : Option Nat
  numeric : Bool
  reversed : Bool
  folds : Bool
  skipsBlanks : Bool

/-- The fields of a line; without a separator each begins with the blanks in front of it. -/
def sortFields (separator : Option Char) (fuel : Nat) (line : List Char) : List (List Char) :=
  match fuel with
  | 0 => [line]
  | fuel + 1 =>
    match separator with
    | some c =>
      let field := line.takeWhile (· != c)
      match line.drop field.length with
      | [] => [field]
      | _ :: rest => field :: sortFields separator fuel rest
    | none =>
      let isBlank (c : Char) : Bool := c = ' ' || c = '\t'
      let blanks := line.takeWhile isBlank
      let field := blanks ++ (line.drop blanks.length).takeWhile (!isBlank ·)
      match line.drop field.length with
      | [] => [field]
      | rest => field :: sortFields none fuel rest

/-- The part of a line that it is sorted by. -/
def SortKey.part (k : SortKey) (separator : Option Char) (line : List Char) : List Char :=
  let fields := sortFields separator (line.length + 1) line
  let chosen := match k.last with
    | some last => (fields.take last).drop (k.first - 1)
    | none => fields.drop (k.first - 1)
  let joint := match separator with
    | some c => [c]
    | none => []
  let text := joint.intercalate chosen
  let text := if k.skipsBlanks then text.dropWhile fun c => c = ' ' || c = '\t' else text
  if k.folds then text.map Char.toUpper else text

/-- The number at the start of a text, in thousandths of a millionth. -/
def leadingNumber (text : List Char) : Int :=
  let text := text.dropWhile fun c => c = ' ' || c = '\t'
  let (isNegative, text) := match text with
    | '-' :: rest => (true, rest)
    | _ => (false, text)
  let whole := text.takeWhile Char.isDigit
  let places := match text.drop whole.length with
    | '.' :: rest => (rest.takeWhile Char.isDigit).take 9
    | _ => []
  let n : Int := Formatted.number 10 (whole ++ places) * Nat.pow 10 (9 - places.length)
  if isNegative then -n else n

/-- Two lines compared by a key. -/
def SortKey.compare (k : SortKey) (separator : Option Char) (a b : List Char) : Ordering :=
  let a := k.part separator a
  let b := k.part separator b
  let order := if k.numeric then Ord.compare (leadingNumber a) (leadingNumber b)
    else if a < b then .lt else if b < a then .gt else .eq
  if k.reversed then order.swap else order

/-- Reads a key. -/
def readKey (i : Invocation) (s : Switched) (text : String) : Works SortKey := do
  let number (cs : List Char) : Nat × List Char :=
    let digits := cs.takeWhile Char.isDigit
    (Formatted.number 10 digits, cs.drop digits.length)
  let letters (cs : List Char) : List Char :=
    (match cs with
      | '.' :: rest => rest.dropWhile Char.isDigit
      | _ => cs).takeWhile Char.isAlpha
  let (first, rest) := number text.toList
  if first = 0 then
    if text.startsWith "0" then
      i.refuse ("field number is zero: invalid field specification " ++ quote text) 2
    else i.refuse ("invalid number at field start: invalid count at start of " ++ quote text) 2
  let (last, more) := match rest.dropWhile (· != ',') with
    | ',' :: after => (some (number after).1, letters (number after).2)
    | _ => (none, [])
  let given := letters rest ++ more
  let has (c : Char) : Bool := given.contains c || (given.isEmpty && s.has (String.singleton c))
  return ⟨first, last, has 'n', has 'r', has 'f', has 'b'⟩

/-- Sorts lines. -/
def sort (i : Invocation) : Works Unit := do
  let s ← i.switches [{ word := "reverse", letter := some 'r' },
    { word := "numeric-sort", letter := some 'n' }, { word := "unique", letter := some 'u' },
    { word := "ignore-case", letter := some 'f' },
    { word := "ignore-leading-blanks", letter := some 'b' },
    { word := "key", letter := some 'k', hasValue := some true },
    { word := "field-separator", letter := some 't', hasValue := some true },
    { word := "check", letter := some 'c' }, { word := "stable", letter := some 's' },
    { word := "output", letter := some 'o', hasValue := some true }, { word := "help" },
    { word := "version" }] 2
  let given ← (s.given.filter (·.1 = "k")).mapM fun (_, text) => readKey i s text
  let keys := if given.isEmpty then
      [⟨1, none, s.has "n", s.has "r", s.has "f", s.has "b"⟩]
    else given
  let separator := (s.value? "t").bind fun text => text.toList.head?
  let byKeys (a b : List Char) : Ordering :=
    keys.foldl (fun order k => order.then (k.compare separator a b)) .eq
  let precedes (a b : List Char) : Bool := a.lex b fun c d => c.val < d.val
  let isPlain := s.has "u" || s.has "s"
  let before (a b : List Char) : Bool :=
    match byKeys a b with
    | .lt => true
    | .gt => false
    | .eq => isPlain || !(if s.has "r" then precedes a b else precedes b a)
  let mut lines := #[]
  for name in operandsOrInput s do
    match ← i.readOperand name with
    | .error .isDirectory => i.refuse ("read failed: " ++ shellName name ++ ": Is a directory") 2
    | .error fault => i.refuse ("cannot read: " ++ shellName name ++ ": " ++ fault.reason) 2
    | .ok bytes => lines := lines ++ (wholeLines bytes).toArray
  if s.has "c" then
    let pairs := lines.toList.zip (lines.toList.drop 1)
    let isWrong (a b : List Char) : Bool :=
      match byKeys a b with
      | .gt => true
      | .eq => s.has "u" || (!s.has "s" && (if s.has "r" then precedes a b else precedes b a))
      | .lt => false
    match pairs.zipIdx.find? fun ((a, b), _) => isWrong a b with
    | some ((_, b), n) =>
      i.complain ((operandsOrInput s).head?.getD "-" ++ ":" ++ toString (n + 2) ++ ": disorder: " ++
        String.ofList b)
    | none => pure ()
  else
    let sorted := lines.toList.mergeSort before
    let sorted := if s.has "u" then
        sorted.foldr (fun line kept =>
          match kept with
          | next :: more => if byKeys line next = .eq then line :: more else line :: next :: more
          | [] => [line]) []
      else sorted
    match s.value? "o" with
    | none => writeLines sorted
    | some path =>
      match ← Works.change fun files =>
          files.write ⟨path⟩ (Octets.toBytes (sorted.flatMap (· ++ ['\n']))) with
      | none => pure ()
      | some fault => i.refuse ("open failed: " ++ shellName path ++ ": " ++ fault.reason) 2

/-- Neighbours that are equal, with their number. -/
def runs (same : List Char → List Char → Bool) : List (List Char) → List (Nat × List Char)
  | [] => []
  | line :: rest =>
    match runs same rest with
    | (n, next) :: more =>
      if same line next then (n + 1, line) :: more else (1, line) :: (n, next) :: more
    | [] => [(1, line)]

/-- Prints one of neighbours that are equal. -/
def uniq (i : Invocation) : Works Unit := do
  let s ← i.switches [{ word := "count", letter := some 'c' },
    { word := "repeated", letter := some 'd' }, { word := "unique", letter := some 'u' },
    { word := "ignore-case", letter := some 'i' }, { word := "help" }, { word := "version" }]
  match s.operands with
  | _ :: _ :: extra :: _ => i.misused ("extra operand " ++ quote extra)
  | operands =>
    let name := operands.head?.getD "-"
    match ← i.readOperand name with
    | .error .isDirectory => i.refuse ("error reading " ++ quote name ++ ": Is a directory")
    | .error fault => i.refuse (shellName name ++ ": " ++ fault.reason)
    | .ok bytes =>
      let fold (line : List Char) : List Char := if s.has "i" then line.map Char.toUpper else line
      let found := (runs (fun a b => fold a == fold b) (wholeLines bytes)).filter fun (n, _) =>
        (!s.has "d" || 1 < n) && (!s.has "u" || n = 1)
      let out := found.flatMap fun (n, line) =>
        (if s.has "c" then (padded 7 n ++ " ").toList else []) ++ line ++ ['\n']
      match operands[1]? with
      | some path =>
        if path = "-" then Works.writeBytes (Octets.toBytes out)
        else
          match ← Works.change fun files => files.write ⟨path⟩ (Octets.toBytes out) with
          | none => pure ()
          | some fault => i.refuse (shellName path ++ ": " ++ fault.reason)
      | none => Works.writeBytes (Octets.toBytes out)

end FirmwareKit.Host.Tools
