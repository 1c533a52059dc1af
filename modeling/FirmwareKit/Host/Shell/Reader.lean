import FirmwareKit.Host.Shell.Syntax

/-! Reading scripts. A script is read line by line, so what stands before a mistake is run
before the mistake is found. Text that is given for a redirection stands behind the
line that announces it. -/

namespace FirmwareKit.Host.Shell

/-- The smallest parts of a script that mean something. -/
inductive Token where
  | ended
  | newline
  | operator (text : String)
  | keyword (text : String)
  | redirect (descriptor : Nat) (direction : Direction) (dropsTabs : Bool)
  | word (word : Word)

namespace Token

/-- What a token is called. -/
def describe : Token → String
  | ended => "end of file"
  | newline => "newline"
  | operator text | keyword text => "\"" ++ text ++ "\""
  | redirect .. => "redirection"
  | word _ => "word"

/-- The token is the operator or the keyword. -/
def isText (text : String) : Token → Bool
  | operator t | keyword t => t == text
  | _ => false

/-- The token stands behind a row of commands. -/
def endsList : Token → Bool
  | ended => true
  | operator text => text == ";;" || text == ")"
  | keyword text => ["do", "done", "elif", "else", "esac", "fi", "then", "\x7d"].contains text
  | _ => false

end Token

/-- Words that mean something where a command can start. -/
def keywords : List String :=
  ["!", "case", "do", "done", "elif", "else", "esac", "fi", "for", "if", "in", "then", "until",
    "while", "\x7b", "\x7d"]

/-- Text that is announced, up to a line with the delimiter. -/
structure Announced where
  number : Nat
  delimiter : String
  dropsTabs : Bool
  isRaw : Bool

/-- What is left of a script. -/
structure Source where
  rest : List Char
  line : Nat := 1
  /-- A token that was looked at. -/
  pushed : Option Token := none
  announced : List Announced := []
  /-- Texts that were announced, by their numbers. -/
  texts : List (Nat × Word) := []
  count : Nat := 0

/-- A mistake in a script: its line, and what is wrong. -/
structure Mistake where
  line : Nat
  text : String

/-- A part of the reader. -/
abbrev Reads := StateT Source (Except Mistake)

namespace Reads

def mistake {α : Type} (text : String) : Reads α := do
  throw ⟨(← get).line, text⟩

/-- The next characters are those. -/
def sees (text : String) : Reads Bool := do
  return text.toList.isPrefixOf (← get).rest

/-- Passes so many characters. -/
def pass (count : Nat) : Reads Unit :=
  modify fun s =>
    { s with
      rest := s.rest.drop count
      line := s.line + (s.rest.take count).count '\n' }

/-- The token is not one that can stand here. -/
def unexpected {α : Type} (token : Token) (wanted : Option String) : Reads α :=
  mistake ("Syntax error: " ++ token.describe ++ " unexpected" ++
    match wanted with
    | none => ""
    | some text => " (expecting \"" ++ text ++ "\")")

/-- Where pieces of a word stand. -/
inductive Place where
  | bare
  | double
  | document
  | braces (inDouble : Bool)
  | sum (depth : Nat)
  deriving DecidableEq

/-- A character in front of other pieces. -/
def consChar (quoted : Bool) (c : Char) : Word → Word
  | .text q s :: more =>
    if q = quoted then .text q (String.ofList (c :: s.toList)) :: more
    else .text quoted (String.singleton c) :: .text q s :: more
  | more => .text quoted (String.singleton c) :: more

/-- Pieces in quotes, which are there even if they are empty. -/
def inQuotes (word : Word) : Word :=
  if word.isEmpty then [.text true ""] else word

/-- The characters that end a word. -/
def endsWord (c : Char) : Bool :=
  " \t\n;&|<>()".toList.contains c

/-- Text up to a character, which is passed. -/
def upTo (stop : Char) (problem : String) : Reads String := do
  let s ← get
  let text := s.rest.takeWhile (· != stop)
  if text.length = s.rest.length then
    pass text.length
    mistake ("Syntax error: " ++ problem)
  else
    pass (text.length + 1)
    return String.ofList text

/-- The text between backquotes, with the backslashes taken away that keep a character from its
meaning. -/
def backquoted (inDouble : Bool) : List Char → Option (List Char × List Char)
  | [] => none
  | '`' :: rest => some ([], rest)
  | '\\' :: c :: rest =>
    (backquoted inDouble rest).map fun (text, rest) =>
      if c = '\\' || c = '`' || c = '$' || inDouble && c = '"' then (c :: text, rest)
      else ('\\' :: c :: text, rest)
  | c :: rest => (backquoted inDouble rest).map fun (text, rest) => (c :: text, rest)

/-- The name of a parameter that stands here: a name, a digit or a special character; in braces a
number can have several digits. -/
def parameterName (inBraces : Bool) : List Char → Option String
  | c :: rest =>
    if isNameStart c then some (String.ofList (c :: rest.takeWhile isNameChar))
    else if c.isDigit then
      some (String.ofList (c :: if inBraces then rest.takeWhile Char.isDigit else []))
    else if "@*#?-$!".toList.contains c then some (String.singleton c)
    else none
  | [] => none

/-- How a parameter in braces is used, seen from what follows its name. -/
def useOf : List Char → Use × Nat
  | ':' :: '-' :: _ => (.substitute .default true, 2)
  | ':' :: '=' :: _ => (.substitute .assigned true, 2)
  | ':' :: '?' :: _ => (.substitute .alarm true, 2)
  | ':' :: '+' :: _ => (.substitute .alternative true, 2)
  | '-' :: _ => (.substitute .default false, 1)
  | '=' :: _ => (.substitute .assigned false, 1)
  | '?' :: _ => (.substitute .alarm false, 1)
  | '+' :: _ => (.substitute .alternative false, 1)
  | '%' :: '%' :: _ => (.trim true true, 2)
  | '%' :: _ => (.trim true false, 1)
  | '#' :: '#' :: _ => (.trim false true, 2)
  | '#' :: _ => (.trim false false, 1)
  | '\x7d' :: _ => (.value, 0)
  | _ => (.bad, 0)

/-- Some lines without the tabs in front of them. -/
def dropTabs (text : List Char) : List Char :=
  text.dropWhile (· == '\t')

/-- The lines up to a delimiter, and what follows them. -/
def documentLines (d : Announced) : (fuel : Nat) → List Char → List Char × List Char
  | 0, rest => ([], rest)
  | _, [] => ([], [])
  | fuel + 1, rest =>
    let line := rest.takeWhile (· != '\n')
    let after := rest.drop (line.length + 1)
    let line := if d.dropsTabs then dropTabs line else line
    if String.ofList line = d.delimiter then ([], after)
    else
      let ending := if line.length < rest.length || !after.isEmpty then ['\n'] else []
      let (more, after) := documentLines d fuel after
      (line ++ ending ++ more, after)

/-- The length of a comment at the start of a text. -/
def commentLength : List Char → Nat
  | '#' :: rest => 1 + (rest.takeWhile (· != '\n')).length
  | _ => 0

/-- Blanks, joined lines and comments in front of a token. -/
def passBlanks : (fuel : Nat) → Reads Unit
  | 0 => pure ()
  | fuel + 1 => do
    match (← get).rest with
    | ' ' :: _ | '\t' :: _ => pass 1; passBlanks fuel
    | '\\' :: '\n' :: _ => pass 2; passBlanks fuel
    | rest => pass (commentLength rest)

/-- An operator at the start of a text. -/
def operatorAt? (text : List Char) : Option String :=
  ["&&", "||", ";;", "&", "|", ";", "(", ")"].find? fun s => s.toList.isPrefixOf text

/-- A redirection at the start of a text: its length, and what it is. -/
def redirectAt? (text : List Char) : Option (Nat × Token) :=
  let (digits, descriptor, rest) : Nat × Option Nat × List Char := match text with
    | c :: rest => if c.isDigit then (1, some (c.toNat - '0'.toNat), rest) else (0, none, text)
    | [] => (0, none, [])
  let read := descriptor.getD 0
  let write := descriptor.getD 1
  (match rest with
    | '<' :: '<' :: '-' :: _ => some (3, .redirect read .here true)
    | '<' :: '<' :: _ => some (2, .redirect read .here false)
    | '<' :: '&' :: _ => some (2, .redirect read .copy false)
    | '<' :: '>' :: _ => some (2, .redirect read .both false)
    | '<' :: _ => some (1, .redirect read .read false)
    | '>' :: '>' :: _ => some (2, .redirect write .append false)
    | '>' :: '&' :: _ => some (2, .redirect write .copy false)
    | '>' :: '|' :: _ => some (2, .redirect write .write false)
    | '>' :: _ => some (1, .redirect write .write false)
    | _ => none : Option (Nat × Token)).map fun (length, token) => (digits + length, token)

/-- The name and the value of a word that is an assignment. -/
def assignment? : Word → Option (String × Word)
  | .text false s :: more =>
    let cs := s.toList
    let name := String.ofList (cs.takeWhile (· != '='))
    if isName name && name.length < cs.length then
      let value := String.ofList (cs.drop (name.length + 1))
      some (name, if value.isEmpty then more else .text false value :: more)
    else none
  | _ => none

/-- The text of a word without its quotes, if it has no other pieces. -/
def literalText : Word → String
  | .text _ s :: more => s ++ literalText more
  | _ => ""

/-- A word has no quotes. -/
def isUnquoted (word : Word) : Bool :=
  (plainText? word).isSome

/-- Commands that cannot be defined anew. -/
def specialNames : List String :=
  [".", ":", "break", "continue", "eval", "exec", "exit", "export", "local", "readonly", "return",
    "set", "shift", "times", "trap", "unset"]

/-- Pushes a token back. -/
def push (token : Token) : Reads Unit :=
  modify fun s => { s with pushed := some token }

mutual

/-- The pieces of a word up to where it ends at its place. -/
def pieces (fuel : Nat) (place : Place) : Reads Word := do
  match fuel with
  | 0 => mistake "Syntax error: end of file unexpected"
  | fuel + 1 =>
    let quoted := match place with
      | .bare | .braces false => false
      | _ => true
    match (← get).rest with
    | [] =>
      match place with
      | .bare | .document => return []
      | .double => mistake "Syntax error: Unterminated quoted string"
      | .braces _ => mistake "Syntax error: Missing '\x7d'"
      | .sum _ => mistake "Syntax error: Missing '))'"
    | '$' :: _ =>
      pass 1
      let piece ← dollar fuel quoted
      let more ← pieces fuel place
      match piece with
      | none => return consChar quoted '$' more
      | some piece => return piece :: more
    | '`' :: rest =>
      match backquoted quoted rest with
      | none =>
        pass (rest.length + 1)
        mistake "Syntax error: EOF in backquote substitution"
      | some (text, after) =>
        let s ← get
        set { s with rest := text, pushed := none }
        let script ← list fuel false
        modify fun t => { t with rest := after, line := s.line, pushed := none }
        return .output quoted script :: (← pieces fuel place)
    | '\\' :: '\n' :: _ =>
      pass 2
      pieces fuel place
    | '\\' :: rest =>
      match rest, quoted with
      | [], _ => pass 1; return consChar quoted '\\' (← pieces fuel place)
      | c :: _, false => pass 2; return consChar true c (← pieces fuel place)
      | c :: _, true =>
        if "$`\\".toList.contains c || c = '"' && place ≠ .document ||
            c = '\x7d' && place = .braces true then
          pass 2
          return consChar true c (← pieces fuel place)
        else
          pass 1
          return consChar true '\\' (← pieces fuel place)
    | '"' :: _ =>
      match place with
      | .double => return []
      | .document | .sum _ => pass 1; return consChar true '"' (← pieces fuel place)
      | .bare | .braces _ =>
        pass 1
        let word ← pieces fuel .double
        pass 1
        return inQuotes word ++ (← pieces fuel place)
    | '\'' :: _ =>
      if quoted then pass 1; return consChar true '\'' (← pieces fuel place)
      else
        pass 1
        let text ← upTo '\'' "Unterminated quoted string"
        return .text true text :: (← pieces fuel place)
    | c :: rest =>
      match place with
      | .bare =>
        if endsWord c then return []
        else pass 1; return consChar false c (← pieces fuel place)
      | .braces _ =>
        if c = '\x7d' then return []
        else pass 1; return consChar quoted c (← pieces fuel place)
      | .sum depth =>
        if c = '(' then pass 1; return consChar true c (← pieces fuel (.sum (depth + 1)))
        else if c = ')' then
          if depth = 0 then
            if rest.head? = some ')' then return []
            else pass 1; return consChar true c (← pieces fuel place)
          else pass 1; return consChar true c (← pieces fuel (.sum (depth - 1)))
        else pass 1; return consChar true c (← pieces fuel place)
      | _ => pass 1; return consChar true c (← pieces fuel place)

/-- What stands behind a dollar sign; none if it is a plain character. -/
def dollar (fuel : Nat) (quoted : Bool) : Reads (Option Piece) := do
  match fuel with
  | 0 => mistake "Syntax error: end of file unexpected"
  | fuel + 1 =>
    match (← get).rest with
    | '(' :: '(' :: _ =>
      pass 2
      let word ← pieces fuel (.sum 0)
      pass 2
      return some (.arithmetic quoted word)
    | '(' :: _ =>
      pass 1
      let script ← list fuel false
      let token ← nextToken fuel true false
      if !token.isText ")" then unexpected token (some ")")
      return some (.output quoted script)
    | '\x7b' :: rest =>
      pass 1
      let isLength := match rest with
        | '#' :: c :: after =>
          isNameChar c || ("@*#?-$!".toList.contains c && after.head? = some '\x7d')
        | _ => false
      if isLength then pass 1
      match parameterName true (← get).rest with
      | none =>
        let _ ← pieces fuel (.braces quoted)
        pass 1
        return some (.parameter quoted "" .bad [])
      | some name =>
        pass name.length
        let (use, length) := useOf (← get).rest
        let use := if !isLength then use else if use = .value then .length else .bad
        pass length
        let place : Place := match use with
          | .trim .. => .braces false
          | _ => .braces quoted
        let word ← pieces fuel place
        pass 1
        return some (.parameter quoted name use word)
    | rest =>
      match parameterName false rest with
      | none => return none
      | some name =>
        pass name.length
        return some (.parameter quoted name .value [])

/-- Reads the texts that were announced, which start here. -/
def documents (fuel : Nat) : Reads Unit := do
  match fuel with
  | 0 => pure ()
  | fuel + 1 =>
    match (← get).announced with
    | [] => pure ()
    | d :: more =>
      let s ← get
      let (text, after) := documentLines d (s.rest.length + 1) s.rest
      let passed := s.rest.length - after.length
      let line := s.line + (s.rest.take passed).count '\n'
      let word ←
        if d.isRaw then pure [Piece.text true (String.ofList text)]
        else
          set { s with rest := text }
          pieces fuel .document
      modify fun t =>
        { t with rest := after, line, announced := more, texts := (d.number, word) :: t.texts }
      documents fuel

/-- The next token. `wantsKeyword` tells that words can be keywords, and `passesNewlines` that
newlines do not count. -/
def nextToken (fuel : Nat) (wantsKeyword passesNewlines : Bool) : Reads Token := do
  match fuel with
  | 0 => mistake "Syntax error: end of file unexpected"
  | fuel + 1 =>
    let found ←
      match (← get).pushed with
      | some token =>
        modify fun s => { s with pushed := none }
        pure token
      | none =>
        passBlanks ((← get).rest.length + 1)
        let rest := (← get).rest
        match rest, operatorAt? rest, redirectAt? rest with
        | [], _, _ =>
          documents fuel
          pure .ended
        | '\n' :: _, _, _ =>
          pass 1
          documents fuel
          pure .newline
        | _, some text, _ =>
          pass text.length
          pure (.operator text)
        | _, none, some (length, token) =>
          pass length
          pure token
        | _, none, none => do
          let word ← pieces fuel .bare
          pure (.word word)
    match found with
    | .newline => if passesNewlines then nextToken fuel wantsKeyword true else return found
    | .word w =>
      match plainText? w with
      | some text =>
        if wantsKeyword && keywords.contains text then return .keyword text else return found
      | none => return found
    | _ => return found

/-- Where a redirection leads. -/
def redirectTarget (fuel : Nat) (descriptor : Nat) (direction : Direction) (dropsTabs : Bool) :
    Reads Redirect := do
  match fuel with
  | 0 => mistake "Syntax error: end of file unexpected"
  | fuel + 1 =>
    match ← nextToken fuel false false with
    | .word w =>
      match direction with
      | .here =>
        let s ← get
        let d : Announced := ⟨s.count, literalText w, dropsTabs, !isUnquoted w⟩
        set { s with count := s.count + 1, announced := s.announced ++ [d] }
        return .mk descriptor .here [.text true (toString s.count)]
      | .copy =>
        match plainText? w with
        | some text =>
          if text = "-" || text.length = 1 && text.toList.all Char.isDigit then
            return .mk descriptor .copy w
          else mistake "Syntax error: Bad fd number"
        | none => return .mk descriptor .copy w
      | _ => return .mk descriptor direction w
    | token => unexpected token none

/-- Redirections behind a command. -/
def redirects (fuel : Nat) (wantsKeyword : Bool) : Reads (List Redirect) := do
  match fuel with
  | 0 => mistake "Syntax error: end of file unexpected"
  | fuel + 1 =>
    match ← nextToken fuel wantsKeyword false with
    | .redirect descriptor direction dropsTabs =>
      let first ← redirectTarget fuel descriptor direction dropsTabs
      return first :: (← redirects fuel wantsKeyword)
    | token =>
      push token
      return []

/-- The rest of a simple command, of which some parts are known, or a definition. -/
def simple (fuel line : Nat) (assignments : List (String × Word)) (words : List Word)
    (given : List Redirect) : Reads Command := do
  match fuel with
  | 0 => mistake "Syntax error: end of file unexpected"
  | fuel + 1 =>
    match ← nextToken fuel false false with
    | .word w =>
      match if words.isEmpty then assignment? w else none with
      | some a => simple fuel line (assignments ++ [a]) words given
      | none => simple fuel line assignments (words ++ [w]) given
    | .redirect descriptor direction dropsTabs =>
      let target ← redirectTarget fuel descriptor direction dropsTabs
      simple fuel line assignments words (given ++ [target])
    | token =>
      match words with
      | [w] =>
        if token.isText "(" && assignments.isEmpty && given.isEmpty then
          let close ← nextToken fuel false false
          if !close.isText ")" then unexpected close (some ")")
          let name := literalText w
          if !isName name || specialNames.contains name then
            mistake "Syntax error: Bad function name"
          return .define name (← command fuel true)
        else
          push token
          return .simple line assignments words given
      | _ =>
        push token
        return .simple line assignments words given

/-- The patterns of a case up to the closing bracket, the first of which is read already. -/
def patterns (fuel : Nat) (first : Token) : Reads (List Word) := do
  match fuel with
  | 0 => mistake "Syntax error: end of file unexpected"
  | fuel + 1 =>
    let word : Word := match first with
      | .word w => w
      | .keyword text => [.text false text]
      | _ => []
    let token ← nextToken fuel false false
    if token.isText "|" then return word :: (← patterns fuel (← nextToken fuel false false))
    else if token.isText ")" then return [word]
    else unexpected token (some ")")

/-- The cases of a selection. -/
def cases (fuel : Nat) : Reads (List (List Word × Script)) := do
  match fuel with
  | 0 => mistake "Syntax error: end of file unexpected"
  | fuel + 1 =>
    let token ← nextToken fuel true true
    if token.isText "esac" then return []
    else
      let first ← if token.isText "(" then nextToken fuel false false else pure token
      let these ← patterns fuel first
      let body ← list fuel true
      let token ← nextToken fuel true true
      if token.isText "esac" then return [(these, body)]
      else if token.isText ";;" then return (these, body) :: (← cases fuel)
      else unexpected token (some ";;")

/-- What follows the condition of a choice and its body. -/
def otherwise (fuel : Nat) : Reads Script := do
  match fuel with
  | 0 => mistake "Syntax error: end of file unexpected"
  | fuel + 1 =>
    let token ← nextToken fuel true false
    if token.isText "elif" then
      let condition ← list fuel false
      expect fuel "then"
      let body ← list fuel false
      return [.choice condition body (← otherwise fuel)]
    else if token.isText "else" then
      let body ← list fuel false
      expect fuel "fi"
      return body
    else if token.isText "fi" then return []
    else unexpected token (some "fi")

/-- The words of a loop up to the end of the line. -/
def loopWords (fuel : Nat) : Reads (List Word) := do
  match fuel with
  | 0 => mistake "Syntax error: end of file unexpected"
  | fuel + 1 =>
    match ← nextToken fuel false false with
    | .word w => return w :: (← loopWords fuel)
    | .newline => return []
    | token => if token.isText ";" then return [] else unexpected token none

/-- The next token has to be that one. -/
def expect (fuel : Nat) (text : String) : Reads Unit := do
  match fuel with
  | 0 => mistake "Syntax error: end of file unexpected"
  | fuel + 1 =>
    let token ← nextToken fuel true false
    if !token.isText text then unexpected token (some text)

/-- A command that is made of others, if the token starts one. -/
def compound (fuel line : Nat) (token : Token) : Reads (Option Command) := do
  match fuel with
  | 0 => mistake "Syntax error: end of file unexpected"
  | fuel + 1 =>
    if token.isText "if" then
      let condition ← list fuel false
      expect fuel "then"
      let body ← list fuel false
      return some (.choice condition body (← otherwise fuel))
    else if token.isText "while" || token.isText "until" then
      let condition ← list fuel false
      expect fuel "do"
      let body ← list fuel false
      expect fuel "done"
      return some (.loop line (token.isText "until") condition body)
    else if token.isText "for" then
      let name ← match ← nextToken fuel false false with
        | .word w =>
          match plainText? w with
          | some name =>
            if isName name then pure name else mistake "Syntax error: Bad for loop variable"
          | none => mistake "Syntax error: Bad for loop variable"
        | _ => mistake "Syntax error: Bad for loop variable"
      let token ← nextToken fuel true true
      let words ←
        if token.isText "in" then do pure (some (← loopWords fuel))
        else
          if !token.isText ";" then push token
          pure none
      let token ← nextToken fuel true true
      if !token.isText "do" then unexpected token (some "do")
      let body ← list fuel false
      expect fuel "done"
      return some (.each line name words body)
    else if token.isText "case" then
      let word ← match ← nextToken fuel false false with
        | .word w => pure w
        | token => mistake ("Syntax error: " ++ token.describe ++ " unexpected (expecting word)")
      let token ← nextToken fuel true true
      if !token.isText "in" then unexpected token (some "in")
      return some (.select line word (← cases fuel))
    else if token.isText "(" then
      let body ← list fuel false
      expect fuel ")"
      return some (.subshell line body)
    else if token.isText "\x7b" then
      let body ← list fuel false
      expect fuel "\x7d"
      return some (.group body)
    else return none

/-- A command with its redirections. -/
def command (fuel : Nat) (passesNewlines : Bool) : Reads Command := do
  match fuel with
  | 0 => mistake "Syntax error: end of file unexpected"
  | fuel + 1 =>
    let line := (← get).line
    let token ← nextToken fuel true passesNewlines
    match token with
    | .word _ | .redirect .. =>
      push token
      simple fuel line [] [] []
    | _ =>
      match ← compound fuel line token with
      | none => unexpected token none
      | some c =>
        match ← redirects fuel true with
        | [] => return c
        | given => return .redirected line c given

/-- More commands of a pipeline. -/
def stages (fuel : Nat) : Reads (List Command) := do
  match fuel with
  | 0 => mistake "Syntax error: end of file unexpected"
  | fuel + 1 =>
    let token ← nextToken fuel false false
    if token.isText "|" then
      let first ← command fuel true
      return first :: (← stages fuel)
    else
      push token
      return []

/-- A pipeline. -/
def pipeline (fuel : Nat) (passesNewlines : Bool) : Reads Command := do
  match fuel with
  | 0 => mistake "Syntax error: end of file unexpected"
  | fuel + 1 =>
    let token ← nextToken fuel true passesNewlines
    let isNot := token.isText "!"
    if !isNot then push token
    let first ← command fuel false
    let more ← stages fuel
    let whole := if more.isEmpty then first else .pipeline (first :: more)
    return if isNot then .not whole else whole

/-- Pipelines that depend on those before them. -/
def chain (fuel : Nat) (first : Command) : Reads Command := do
  match fuel with
  | 0 => mistake "Syntax error: end of file unexpected"
  | fuel + 1 =>
    let token ← nextToken fuel false false
    if token.isText "&&" then chain fuel (.both first (← pipeline fuel true))
    else if token.isText "||" then chain fuel (.either first (← pipeline fuel true))
    else
      push token
      return first

/-- A row of commands inside of another one; `canBeEmpty` tells that it need not have any. -/
def list (fuel : Nat) (canBeEmpty : Bool) : Reads Script := do
  match fuel with
  | 0 => mistake "Syntax error: end of file unexpected"
  | fuel + 1 =>
    let token ← nextToken fuel true true
    push token
    match token with
    | .ended => return []
    | _ =>
      if canBeEmpty && token.endsList then return []
      else
        let c ← chain fuel (← pipeline fuel false)
        let token ← nextToken fuel false false
        if token.isText "&" then return .background c :: (← list fuel true)
        else if token.isText ";" then return c :: (← list fuel true)
        else
          match token with
          | .newline => return c :: (← list fuel true)
          | _ =>
            push token
            return [c]

/-- The commands up to the end of a line; none if the script is at its end. -/
def line (fuel : Nat) (isFirst : Bool) : Reads (Option Script) := do
  match fuel with
  | 0 => return none
  | fuel + 1 =>
    let token ← nextToken fuel true false
    match token with
    | .newline => return some []
    | .ended =>
      push token
      return if isFirst then none else some []
    | _ =>
      push token
      let c ← chain fuel (← pipeline fuel false)
      let token ← nextToken fuel false false
      if token.isText "&" then return (← line fuel false).map (.background c :: ·)
      else if token.isText ";" then return (← line fuel false).map (c :: ·)
      else
        match token with
        | .newline => return some [c]
        | .ended =>
          push token
          return some [c]
        | _ => unexpected token none

end

end Reads

namespace Source

/-- The next line of a script; none if it is at its end. -/
def next (s : Source) : Except Mistake (Option Script × Source) :=
  (Reads.line (16 * s.rest.length + 64) true).run s

end Source

end FirmwareKit.Host.Shell
