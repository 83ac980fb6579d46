/-!
# Options

Reading the words of a command line.  A word that starts with two dashes names an option, one with
a single dash gives options by their letters, and the value of an option is either attached to it
or is the next word.  After the word `--` nothing is an option any more.
-/

namespace CardReader.CommandLine

/-- What is wrong with a command line. -/
inductive Misuse where
  /-- No command is given. -/
  | noCommand
  /-- There is no such command. -/
  | unknownCommand (word : String)
  /-- A word or an option that the command does not take. -/
  | unexpected (word : String)
  /-- An option that may be given once is repeated. -/
  | repeated (option : String)
  /-- An option lacks its value. -/
  | noValue (option : String)
  /-- The value of an option is not acceptable. -/
  | badValue (option value : String)
  /-- A value is attached to an option that takes none. -/
  | needlessValue (option : String)
  /-- A required option is missing. -/
  | missing (option : String)
  /-- Options are given of which only one may be. -/
  | conflict (options : List String)
  deriving DecidableEq

/-- The wording of a misuse. -/
def Misuse.message : Misuse → String
  | .noCommand => "a command is required"
  | .unknownCommand word => "no such command: " ++ word
  | .unexpected word => "unexpected argument: " ++ word
  | .repeated option => "--" ++ option ++ " cannot be used more than once"
  | .noValue option => "--" ++ option ++ " needs a value"
  | .badValue option value => "invalid value for --" ++ option ++ ": " ++ value
  | .needlessValue option => "--" ++ option ++ " takes no value"
  | .missing option => "--" ++ option ++ " is required"
  | .conflict options => "only one can be used of " ++ ", ".intercalate (options.map ("--" ++ ·))

/-- Why the reading of a command line ends without a command. -/
inductive Halt where
  /-- The version is asked for. -/
  | version
  /-- Help is asked for. -/
  | help
  /-- Something is wrong. -/
  | misuse (reason : Misuse)
  deriving DecidableEq

/-- What an option does and takes. -/
inductive OptionKind where
  /-- It may be given once. -/
  | flag
  /-- It may be given any number of times. -/
  | counted
  /-- It may be given once, with a value that passes a test. -/
  | value (accepts : String → Bool)
  /-- It ends the reading. -/
  | halting (halt : Halt)

/-- An option. -/
structure OptionSpec where
  /-- The name after two dashes. -/
  name : String
  /-- The letter after one dash. -/
  letter : Option Char := none
  /-- What it does and takes. -/
  kind : OptionKind

/-- What one level of a command line consists of. -/
structure Level where
  /-- The options. -/
  options : List OptionSpec
  /-- Whether there may be words that belong to no option. -/
  operands : Bool := false
  /-- The commands that start the next level. -/
  commands : List String := []

/-- What has been given on one level. -/
structure Given where
  /-- The options with their values, in order. -/
  options : List (String × String) := []
  /-- The words that belong to no option. -/
  operands : List String := []
  deriving DecidableEq

namespace Given

/-- Whether an option has been given. -/
def has (given : Given) (name : String) : Bool := given.options.any fun (n, _) => n == name

/-- The value that an option has been given. -/
def value? (given : Given) (name : String) : Option String := given.options.lookup name

/-- Records an option. -/
def record (given : Given) (name value : String) : Given :=
  { given with options := given.options ++ [(name, value)] }

/-- Takes an option with its value, which is empty where the option takes none. -/
def add (given : Given) (spec : OptionSpec) (value : String) : Except Halt Given :=
  match spec.kind with
  | .halting halt => .error halt
  | .counted => .ok (given.record spec.name value)
  | .flag =>
    if given.has spec.name then .error (.misuse (.repeated spec.name))
    else .ok (given.record spec.name value)
  | .value accepts =>
    if given.has spec.name then .error (.misuse (.repeated spec.name))
    else if accepts value then .ok (given.record spec.name value)
    else .error (.misuse (.badValue spec.name value))

/-- Takes a word that belongs to no option. -/
def addOperand (given : Given) (level : Level) (word : String) : Except Halt Given :=
  if level.operands then .ok { given with operands := given.operands ++ [word] }
  else if level.commands.isEmpty then .error (.misuse (.unexpected word))
  else .error (.misuse (.unknownCommand word))

end Given

namespace Level

/-- The option of a name. -/
def named? (level : Level) (name : String) : Option OptionSpec :=
  level.options.find? fun spec => spec.name == name

/-- The option of a letter. -/
def lettered? (level : Level) (letter : Char) : Option OptionSpec :=
  level.options.find? fun spec => spec.letter == some letter

/-- Whether an option takes a value. -/
def takesValue (spec : OptionSpec) : Bool :=
  match spec.kind with
  | .value _ => true
  | _ => false

/-- What has been given, and the option whose value comes next, if one does. -/
abbrev Step := Except Halt (Given × Option OptionSpec)

/-- Takes a word that names an option, without its dashes. -/
def long (level : Level) (given : Given) (body : List Char) : Step := do
  let (name, attached) := body.span (· != '=')
  let name := String.ofList name
  match level.named? name with
  | none => throw (.misuse (.unexpected ("--" ++ name)))
  | some spec =>
    match takesValue spec, attached with
    | true, [] => return (given, some spec)
    | true, _ :: value => return (← given.add spec (String.ofList value), none)
    | false, [] => return (← given.add spec "", none)
    | false, _ :: _ => throw (.misuse (.needlessValue name))

/-- Takes a word that gives options by their letters, without its dash.  The first option with a
value takes the rest of the word, less an equals sign at its start. -/
def letters (level : Level) (given : Given) : List Char → Step
  | [] => return (given, none)
  | letter :: rest =>
    match level.lettered? letter with
    | none => throw (.misuse (.unexpected ("-" ++ letter.toString)))
    | some spec =>
      if takesValue spec then
        match rest with
        | [] => return (given, some spec)
        | '=' :: value => do return (← given.add spec (String.ofList value), none)
        | value => do return (← given.add spec (String.ofList value), none)
      else do level.letters (← given.add spec "") rest

/-- Takes a word where no value is awaited. -/
def word (level : Level) (given : Given) (word : String) : Step :=
  match word.toList with
  | '-' :: '-' :: body => level.long given body
  | '-' :: letter :: rest => level.letters given (letter :: rest)
  | _ => do return (← given.addOperand level word, none)

/-- Whether a word starts with a dash and has more to it, so that it cannot be a value. -/
def isDashed (word : String) : Bool :=
  match word.toList with
  | '-' :: _ :: _ => true
  | _ => false

/-- Reads the words of a level, up to a command that starts the next one; answers with what has
been given and with the command and the words after it. -/
def read (level : Level) (given : Given) (awaiting : Option OptionSpec) :
    List String → Except Halt (Given × List String)
  | [] =>
    match awaiting with
    | some spec => throw (.misuse (.noValue spec.name))
    | none => return (given, [])
  | word :: rest =>
    match awaiting with
    | some spec =>
      if isDashed word then throw (.misuse (.noValue spec.name))
      else do level.read (← given.add spec word) none rest
    | none =>
      if level.commands.contains word then return (given, word :: rest)
      else if word = "--" then do
        return (← rest.foldlM (fun given word => given.addOperand level word) given, [])
      else do
        let (given, awaiting) ← level.word given word
        level.read given awaiting rest

end Level

end CardReader.CommandLine
