import CreatureNaming.Command.Arguments

/-! The texts that explain the command line. -/

set_option autoImplicit false

namespace CreatureNaming

namespace Verb

def summary : Verb → String
  | render => "Render a pattern for one creature"
  | batch => "Rename every creature in a collection"
  | tokens => "List every token and its value for one creature"
  | functions => "List the functions usable in a pattern"
  | check => "Report unknown names and unclosed calls in a pattern"
  | seedReplacements => "Write an example replacements file if none exists"

/-- What is told of a command's operand. -/
def operandSummary : Verb → String
  | render => "Naming pattern"
  | _ => ""

/-- What is told of an option of a command. -/
def parameterSummary (verb : Verb) : Parameter → String
  | .config => "Configuration file (TOML format)"
  | .collection => if verb = render then "Collection file (JSON)" else ""
  | .id => if verb = render then "Creature id" else ""
  | .preview => "Use the short preview search and placeholder"
  | .species => "Only rename creatures of this species"
  | .replacements => if verb = render then "Replacements file for customreplace (JSON)" else ""
  | .output => "Write the renamed collection to this file"
  | .json => "Print JSON instead of a table"
  | .help => "Print help"

end Verb

namespace Parameter

/-- An option as it is given: its name, and what stands for its value. -/
def form (parameter : Parameter) : String :=
  if parameter.takesValue then "--" ++ parameter.name ++ " <" ++ parameter.name.map Char.toUpper ++ ">"
  else "--" ++ parameter.name

/-- An option with its letter before it. -/
def fullForm (parameter : Parameter) : String :=
  match parameter.letter? with
  | some letter => "-" ++ letter.toString ++ ", " ++ parameter.form
  | none => "    " ++ parameter.form

end Parameter

namespace Help

/-- A heading and rows of two columns. -/
def table (heading : String) (rows : List (String × String)) : String :=
  let width := (rows.map fun (first, _) => first.length).foldl max 0
  rows.foldl
    (fun text (first, second) =>
      text ++ "\n  " ++ first ++ "".pushn ' ' (width + 2 - first.length) ++ second)
    heading

def page (summary usage : String) (sections : List String) : String :=
  summary ++ "\n\nUsage: name-patterns " ++ usage ++
    sections.foldl (fun text part => text ++ "\n\n" ++ part) ""

/-- The options that are listed; settings come first. -/
def listed (verb : Verb) : List Parameter := .config :: verb.parameters ++ [.help]

def usage (verb : Verb) : String :=
  (verb.parameters.filter Parameter.isRequired).foldl
      (fun text parameter => text ++ " " ++ parameter.form) (verb.name ++ " [OPTIONS]") ++
    match verb.operand? with
    | some operand => " <" ++ operand ++ ">"
    | none => ""

def helpSummary : String := "Print this message or the help of the given subcommand(s)"

def text : Topic → String
  | .program =>
      page "Generate creature names from naming patterns" "[OPTIONS] <COMMAND>"
        [table "Commands:"
            (Verb.all.map (fun verb => (verb.name, verb.summary)) ++ [("help", helpSummary)]),
          table "Options:"
            [(Parameter.config.fullForm, Verb.render.parameterSummary .config),
              (Parameter.help.fullForm, Verb.render.parameterSummary .help)]]
  | .verb verb =>
      page verb.summary (usage verb)
        ((verb.operand?.elim [] fun operand =>
            [table "Arguments:" [("<" ++ operand ++ ">", verb.operandSummary)]]) ++
          [table "Options:" ((listed verb).map fun parameter =>
            (parameter.fullForm, verb.parameterSummary parameter))])
  | .help =>
      page helpSummary "help [COMMAND]..."
        [table "Arguments:" [("[COMMAND]...", "Print help for the subcommand(s)")]]

end Help

/-- What the program prints when arguments give no command. -/
def Refusal.transcript : Refusal → Transcript
  | helpAsked topic => Transcript.printLine (Help.text topic) {}
  | misuse =>
      { Transcript.complain "The arguments give no command. Try 'name-patterns --help'." {} with
        exitCode := 2 }

end CreatureNaming
