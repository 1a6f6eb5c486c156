import CreatureNaming.Command.Basic
import CreatureNaming.Number.Numeral

/-! The arguments of the command line.

Arguments start with options that hold for all commands, then comes the name of a command, and
then its options and its operand in any order. Behind `--` all arguments are operands.
-/

set_option autoImplicit false

namespace CreatureNaming

/-- The commands by name. -/
inductive Verb where
  | render
  | batch
  | tokens
  | functions
  | check
  | seedReplacements
  deriving DecidableEq, Repr

/-- What can be given by an option. -/
inductive Parameter where
  | config
  | collection
  | id
  | preview
  | species
  | replacements
  | output
  | json
  | help
  deriving DecidableEq, Repr

/-- What help can be asked about. -/
inductive Topic where
  | program
  | verb (verb : Verb)
  | help
  deriving DecidableEq, Repr

/-- Why arguments give no command. -/
inductive Refusal where
  | helpAsked (topic : Topic)
  | misuse
  deriving DecidableEq, Repr

namespace Verb

def all : List Verb := [render, batch, tokens, functions, check, seedReplacements]

def name : Verb → String
  | render => "render"
  | batch => "batch"
  | tokens => "tokens"
  | functions => "functions"
  | check => "check"
  | seedReplacements => "seed-replacements"

def ofName? (name : String) : Option Verb := all.find? fun verb => verb.name == name

/-- The options of a command, beside those of all commands. -/
def parameters : Verb → List Parameter
  | render => [.collection, .id, .preview, .replacements]
  | batch => [.collection, .species, .replacements, .output]
  | tokens => [.collection, .id, .json]
  | functions => []
  | check => []
  | seedReplacements => []

/-- The name of a command's operand. -/
def operand? : Verb → Option String
  | render => some "PATTERN"
  | batch => some "PATTERN"
  | check => some "PATTERN"
  | seedReplacements => some "FILE"
  | tokens => none
  | functions => none

/-- Whether a text can be the operand. A file has a name. -/
def accepts (verb : Verb) (operand : String) : Bool :=
  verb != seedReplacements || !operand.isEmpty

end Verb

namespace Parameter

def letter? : Parameter → Option Char
  | config => some 'c'
  | collection => some 'C'
  | id => none
  | preview => some 'p'
  | species => some 's'
  | replacements => some 'r'
  | output => some 'o'
  | json => none
  | help => some 'h'

def name : Parameter → String
  | config => "config"
  | collection => "collection"
  | id => "id"
  | preview => "preview"
  | species => "species"
  | replacements => "replacements"
  | output => "output"
  | json => "json"
  | help => "help"

/-- Whether an option has a value; the others are switches. -/
def takesValue : Parameter → Bool
  | preview | json | help => false
  | _ => true

/-- Whether a command cannot do without an option that it has. -/
def isRequired : Parameter → Bool
  | collection | id => true
  | _ => false

/-- Whether a text can be the value. Files have names. -/
def accepts (value : String) : Parameter → Bool
  | config | collection | replacements | output => !value.isEmpty
  | id => (Number.readUInt64? value).isSome
  | _ => true

end Parameter

/-- The options that can be given for a topic. -/
def Topic.parameters : Topic → List Parameter
  | program => [.config, .help]
  | verb command => command.parameters ++ [.config, .help]
  | help => []

/-- What has been read of arguments. -/
structure Given where
  values : List (Parameter × String) := []
  operand : Option String := none
  deriving DecidableEq, Repr

namespace Given

def value? (parameter : Parameter) (given : Given) : Option String :=
  (given.values.find? fun (other, _) => other == parameter).map Prod.snd

def has (parameter : Parameter) (given : Given) : Bool := (given.value? parameter).isSome

/-- Take over an option; each one can be given once. -/
def put (topic : Topic) (parameter : Parameter) (value : String) (given : Given) :
    Except Refusal Given :=
  if given.has parameter || !parameter.accepts value then .error .misuse
  else if parameter = .help then .error (.helpAsked topic)
  else .ok { given with values := given.values ++ [(parameter, value)] }

/-- Take over an operand; a command has at most one. -/
def putOperand (topic : Topic) (operand : String) (given : Given) : Except Refusal Given :=
  match topic, given.operand with
  | .verb verb, none =>
      if verb.operand?.isSome && verb.accepts operand then .ok { given with operand }
      else .error .misuse
  | _, _ => .error .misuse

end Given

namespace Arguments

def isOption (argument : String) : Bool :=
  match argument.toList with
  | '-' :: _ :: _ => true
  | _ => false

/-- Read an option by its name; behind `=` stands its value. The second component is an option
whose value is still to come. -/
def readName (topic : Topic) (given : Given) (written : List Char) :
    Except Refusal (Given × Option Parameter) :=
  let name : String := .ofList (written.takeWhile fun c => c != '=')
  match topic.parameters.find? fun parameter => parameter.name == name,
      written.dropWhile fun c => c != '=' with
  | none, _ => .error .misuse
  | some parameter, _ :: value =>
      if parameter.takesValue then do
        return (← given.put topic parameter (.ofList value), none)
      else .error .misuse
  | some parameter, [] =>
      if parameter.takesValue then .ok (given, some parameter)
      else do return (← given.put topic parameter "", none)

/-- Read options by their letters. Behind the letter of an option with a value stands the value,
with or without `=`, if it does not come as the next argument. -/
def readLetters (topic : Topic) (given : Given) :
    List Char → Except Refusal (Given × Option Parameter)
  | [] => .ok (given, none)
  | letter :: rest =>
      match topic.parameters.find? fun parameter => parameter.letter? == some letter with
      | none => .error .misuse
      | some parameter =>
          if parameter.takesValue then
            match rest with
            | [] => .ok (given, some parameter)
            | '=' :: value | value => do
                return (← given.put topic parameter (.ofList value), none)
          else do readLetters topic (← given.put topic parameter "") rest

/-- Read an argument that is an option. -/
def readOption (topic : Topic) (given : Given) (argument : String) :
    Except Refusal (Given × Option Parameter) :=
  match argument.toList with
  | '-' :: '-' :: name => readName topic given name
  | '-' :: letters => readLetters topic given letters
  | _ => .error .misuse

/-- Read the arguments of a command. `pending` is an option whose value comes next. -/
def readRest (verb : Verb) (onlyOperands : Bool) (pending : Option Parameter) (given : Given) :
    List String → Except Refusal Given
  | [] => if pending.isSome then .error .misuse else .ok given
  | argument :: rest =>
      match pending with
      | some parameter =>
          if isOption argument then .error .misuse
          else do readRest verb false none (← given.put (.verb verb) parameter argument) rest
      | none =>
          if onlyOperands || !isOption argument then do
            readRest verb onlyOperands none (← given.putOperand (.verb verb) argument) rest
          else if argument == "--" then readRest verb true none given rest
          else do
            let (given, pending) ← readOption (.verb verb) given argument
            readRest verb false pending given rest

/-- The command that arguments give. -/
def command? (verb : Verb) (given : Given) : Option Command :=
  let id? := (given.value? .id).bind Number.readUInt64?
  match verb with
  | .render => do
      return .render (← given.value? .collection) (← id?) (← given.operand) (given.has .preview)
        (given.value? .replacements)
  | .batch => do
      return .batch (← given.value? .collection) (← given.operand) (given.value? .species)
        (given.value? .replacements) (given.value? .output)
  | .tokens => do return .tokens (← given.value? .collection) (← id?) (given.has .json)
  | .functions => some .functions
  | .check => given.operand.map .check
  | .seedReplacements => given.operand.map .seedReplacements

/-- The topic that help is asked about by name. -/
def helpTopic? : List String → Option Topic
  | [] => some .program
  | [name] => if name == "help" then some .help else (Verb.ofName? name).map .verb
  | _ => none

/-- Read arguments up to the name of the command, and then those of the command. Settings named
behind the command win over those named before it. -/
def readFrom (pending : Option Parameter) (given : Given) :
    List String → Except Refusal Invocation
  | [] => .error .misuse
  | argument :: rest =>
      match pending with
      | some parameter =>
          if isOption argument then .error .misuse
          else do readFrom none (← given.put .program parameter argument) rest
      | none =>
          if isOption argument then do
            let (given, pending) ← readOption .program given argument
            readFrom pending given rest
          else if argument == "help" then
            .error ((helpTopic? rest).elim .misuse .helpAsked)
          else
            match Verb.ofName? argument with
            | none => .error .misuse
            | some verb => do
                let own ← readRest verb false none {} rest
                match command? verb own with
                | some command =>
                    return ⟨(own.value? .config).or (given.value? .config), command⟩
                | none => throw .misuse

/-- The command that the program is called with. -/
def read (arguments : List String) : Except Refusal Invocation := readFrom none {} arguments

end Arguments

end CreatureNaming
