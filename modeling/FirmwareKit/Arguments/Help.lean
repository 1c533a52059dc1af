import FirmwareKit.Arguments.Grammar
import FirmwareKit.Arguments.Marked

/-! The help texts: what a command is for, how it is used, and a table of its commands
or options with aligned descriptions. -/

namespace FirmwareKit.Arguments

/-- Rows of a term and its description, the descriptions aligned. -/
def table (rows : List (Marked × String)) : Marked :=
  let size (term : Marked) : Nat := term.text.length
  let width := rows.foldl (fun w row => max w (size row.1)) 0
  rows.flatMap fun (term, about) =>
    .plain "  " :: term ++
      [.plain (String.ofList (List.replicate (width - size term + 2) ' ') ++ about ++ "\n")]

namespace Opt

/-- The option as it is typed, with the name of its value. -/
def phrase (o : Opt) : Marked :=
  .literal ("--" ++ o.long) :: match o.value with
    | some name => [.plain (" <" ++ name ++ ">")]
    | none => []

/-- The term of an option, with room for its letter if any option of the table has a letter. -/
def term (o : Opt) : Marked :=
  (match o.short with
    | some letter => [.literal (String.ofList ['-', letter]), .plain ", "]
    | none => [.plain "    "]) ++ o.phrase

end Opt

namespace Page

/-- How the command is used, or how it is used with certain options. Once the shared options are
in use they stand for one another, behind the other options. -/
def usage (p : Page) (used : List Opt) (shared : Bool) : Marked :=
  let alone := if shared then used.filter fun o => !sharedOptions.contains o else used
  let together := "<" ++ "|".intercalate (sharedOptions.map (·.display)) ++ ">"
  [.title "Usage:", .plain " ", .literal p.call] ++
    if used.isEmpty then [.plain p.arguments]
    else alone.flatMap (fun o => .plain " " :: o.phrase) ++
      if shared then [.plain (" " ++ together)] else []

/-- The help text of a page. -/
def helpText (p : Page) : Marked :=
  .plain (p.about ++ "\n\n") :: p.usage [] false ++ .plain "\n" ::
    (match p with
      | top =>
        [.plain "\n", .title "Commands:", .plain "\n"] ++
          table (commands.map fun c => ([.literal c.word], c.about))
      | help =>
        [.plain "\n", .title "Arguments:", .plain "\n"] ++
          table [([.plain "[COMMAND]..."], "Print help for the subcommand(s)")]
      | _ => []) ++
    if p.options.isEmpty then []
    else [.plain "\n", .title "Options:", .plain "\n"] ++
      table (p.options.map fun o => (o.term, o.about))

end Page

end FirmwareKit.Arguments
