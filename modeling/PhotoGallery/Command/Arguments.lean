/-!
# Command line arguments

The command line names an action and gives options, before or after the action.
An option is given at most once on each side, and the later side wins.
-/

namespace PhotoGallery.Command

inductive ActionName
  | check
  | manifest
  | genConfig
deriving DecidableEq

def ActionName.ofWord? (word : String) : Option ActionName :=
  if word = "check" then some .check
  else if word = "manifest" then some .manifest
  else if word = "gen-config" then some .genConfig
  else none

/-- An option with a value. -/
inductive OptionName
  | config
  | title
  | description
  | logLevel
  | output
deriving DecidableEq

/-- The option that a word behind two dashes names, in front of the action or behind
it. -/
def OptionName.ofWord? (action : Option ActionName) (word : String) : Option OptionName :=
  if word = "config" then some .config
  else if word = "title" then some .title
  else if word = "description" then some .description
  else if word = "log-level" then some .logLevel
  else if word = "output" ∧ action = some .manifest then some .output
  else none

/-- An option whose value is a path cannot be empty. -/
def OptionName.isPath : OptionName → Bool
  | config | output => true
  | title | description | logLevel => false

/-- The options given on one side of the action, the latest first. -/
abbrev Given := List (OptionName × String)

inductive Request
  /-- An action, with the options behind it before those in front of it. -/
  | act (action : ActionName) (options : Given)
  | showVersion
  | showHelp
  | misuse
deriving DecidableEq

/-- A word that cannot be the value of the option before it. -/
def isDashed (word : String) : Bool :=
  match word.toList with
  | '-' :: _ :: _ => true
  | _ => false

/-- The name and the value around the first equals sign. -/
def splitEquals (word : List Char) : String × Option String :=
  let name := word.takeWhile (· ≠ '=')
  match word.dropWhile (· ≠ '=') with
  | _ :: value => (String.ofList name, some (String.ofList value))
  | [] => (String.ofList name, none)

/-- Adds an option, unless it is already given or its value is refused. -/
def addOption (given : Given) (name : OptionName) (value : String) : Option Given :=
  if (given.lookup name).isSome || (name.isPath && value.isEmpty) then none
  else some ((name, value) :: given)

inductive Word
  /-- An option, with its value if the word holds that too. -/
  | option (name : OptionName) (value : Option String)
  /-- A word without dashes, or a single dash. -/
  | plain (text : String)
  /-- Two dashes, which only further words without dashes can follow. -/
  | separator
  /-- A word that settles what is asked for. -/
  | settled (request : Request)

def longWord (action : Option ActionName) (word : List Char) : Word :=
  let (name, value) := splitEquals word
  match OptionName.ofWord? action name with
  | some option => .option option value
  | none =>
    if value.isSome then .settled .misuse
    else if name = "help" then .settled .showHelp
    else if name = "version" ∧ action = none then .settled .showVersion
    else .settled .misuse

/-- What a word is, behind the given action if there is one. -/
def Word.ofText (action : Option ActionName) (text : String) : Word :=
  match text.toList with
  | ['-', '-'] => .separator
  | '-' :: '-' :: long => longWord action long
  | '-' :: short :: _ =>
    if short = 'h' then .settled .showHelp
    else if short = 'V' ∧ action = none then .settled .showVersion
    else .settled .misuse
  | _ => .plain text

/-- The request when no words are left. -/
def requestOf (action : Option (ActionName × Given)) (given : Given) : Request :=
  match action with
  | some (name, before) => .act name (given ++ before)
  | none => .misuse

/-- The request for help about the actions that the words name.  There is help about
the program, about each action and about help itself. -/
def helpOn : List String → Request
  | [] => .showHelp
  | [word] =>
    if word = "help" ∨ (ActionName.ofWord? word).isSome then .showHelp else .misuse
  | _ => .misuse

/-- Reads words, where `action` is the action read so far with the options in front of
it, and `given` are the options read since. -/
def readWords (action : Option (ActionName × Given)) (given : Given) : List String → Request
  | [] => requestOf action given
  | word :: rest =>
    match Word.ofText (action.map Prod.fst) word with
    | .settled request => request
    | .separator => if rest.isEmpty then requestOf action given else .misuse
    | .plain text =>
      match action, ActionName.ofWord? text with
      | none, some name => readWords (some (name, given)) [] rest
      | none, none => if text = "help" then helpOn rest else .misuse
      | some _, _ => .misuse
    | .option name (some value) =>
      match addOption given name value with
      | some given => readWords action given rest
      | none => .misuse
    | .option name none =>
      match rest with
      | [] => .misuse
      | value :: later =>
        if isDashed value then .misuse
        else match addOption given name value with
          | some given => readWords action given later
          | none => .misuse

/-- What the arguments ask for. -/
def Request.ofArguments (arguments : List String) : Request :=
  readWords none [] arguments

end PhotoGallery.Command
