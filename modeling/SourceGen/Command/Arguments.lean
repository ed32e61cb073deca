/-!
# Arguments of the command

What the command is asked to do, read from its arguments from left to right. Options may stand before or
behind the positional arguments, short options may be written together, and a value may stand in the
same argument as its option or in the next.
-/

namespace SourceGen.Command

structure GenerateOptions where
  plugins : List String := []
  specs : List String := []
  out : Option String := none
  stripped : Option String := none
  config : Option String := none
deriving DecidableEq, Repr

inductive Action where
  | generate (options : GenerateOptions)
  | validate (specs : List String)
  | schema
deriving DecidableEq, Repr

/-- What the arguments come to; with `usage` they make no sense. -/
inductive Request where
  | perform (verbosity : Nat) (action : Action)
  | version (command : String)
  | help
  | usage
deriving DecidableEq, Repr

/-- The subcommands. -/
inductive Subcommand where
  | generate
  | validate
  | schema
deriving DecidableEq, Repr

def Subcommand.name : Subcommand → String
  | .generate => "generate"
  | .validate => "validate"
  | .schema => "schema"

def Subcommand.ofName? (name : String) : Option Subcommand :=
  [Subcommand.generate, .validate, .schema].find? (·.name == name)

/-- Options that take a value. -/
inductive ValueOption where
  | plugin
  | out
  | stripped
  | config
deriving DecidableEq, Repr

/-- What is known of the arguments so far. -/
structure Progress where
  subcommand : Option Subcommand := none
  /-- How often more notes were asked for, before the subcommand and behind it. -/
  outerVerbosity : Nat := 0
  innerVerbosity : Nat := 0
  options : GenerateOptions := {}
deriving DecidableEq, Repr

namespace Progress

def verbosity (progress : Progress) : Nat :=
  if progress.innerVerbosity = 0 then progress.outerVerbosity else progress.innerVerbosity

def raise (progress : Progress) : Progress :=
  match progress.subcommand with
  | none => { progress with outerVerbosity := progress.outerVerbosity + 1 }
  | some _ => { progress with innerVerbosity := progress.innerVerbosity + 1 }

def version (progress : Progress) : Request :=
  .version (match progress.subcommand with
    | none => "egen"
    | some subcommand => "egen-" ++ subcommand.name)

/-- Only generating takes options with values. -/
def longOption? (progress : Progress) (name : String) : Option ValueOption :=
  if progress.subcommand = some .generate then
    match name with
    | "plugin" => some .plugin
    | "out" => some .out
    | "strip-prefix" => some .stripped
    | "config" => some .config
    | _ => none
  else none

def shortOption? (progress : Progress) (letter : Char) : Option ValueOption :=
  if progress.subcommand = some .generate then
    match letter with
    | 'p' => some .plugin
    | 'o' => some .out
    | _ => none
  else none

/-- Takes the value of an option. All but plugins are given once, and paths are not empty. -/
def setValue? (progress : Progress) (option : ValueOption) (value : String) : Option Progress :=
  let options := progress.options
  match option with
  | .plugin =>
    some { progress with options := { options with plugins := options.plugins ++ [value] } }
  | .out =>
    if options.out.isSome || value.isEmpty then none
    else some { progress with options := { options with out := some value } }
  | .stripped =>
    if options.stripped.isSome then none
    else some { progress with options := { options with stripped := some value } }
  | .config =>
    if options.config.isSome || value.isEmpty then none
    else some { progress with options := { options with config := some value } }

/-- Takes a positional argument: the subcommand first, then the paths of specifications. -/
def takePlain? (progress : Progress) (arg : String) : Option Progress :=
  match progress.subcommand with
  | none =>
    (Subcommand.ofName? arg).map fun subcommand ↦ { progress with subcommand := some subcommand }
  | some .schema => none
  | some _ =>
    if arg.isEmpty then none
    else
      let options := progress.options
      some { progress with options := { options with specs := options.specs ++ [arg] } }

def finish (progress : Progress) : Request :=
  match progress.subcommand with
  | none => .usage
  | some .generate => .perform progress.verbosity (.generate progress.options)
  | some .validate => .perform progress.verbosity (.validate progress.options.specs)
  | some .schema => .perform progress.verbosity .schema

end Progress

/-! ## One argument -/

/-- What an argument does. -/
inductive ArgumentEffect where
  | next (progress : Progress)
  | value (progress : Progress) (option : ValueOption)
  | stop (request : Request)

/-- The letters of an argument of short options. -/
def readLetters (progress : Progress) : List Char → ArgumentEffect
  | [] => .next progress
  | letter :: rest =>
    if letter = 'v' then readLetters progress.raise rest
    else if letter = 'V' then .stop progress.version
    else if letter = 'h' then .stop .help
    else
      match progress.shortOption? letter with
      | none => .stop .usage
      | some option =>
        match rest with
        | [] => .value progress option
        | value =>
          let value := if value.head? = some '=' then value.tail else value
          match progress.setValue? option (String.ofList value) with
          | some progress => .next progress
          | none => .stop .usage

/-- An argument behind two dashes: a name, and a value where an equality sign follows. -/
def readLong (progress : Progress) (arg : List Char) : ArgumentEffect :=
  let name := String.ofList (arg.takeWhile (· != '='))
  match arg.dropWhile (· != '=') with
  | [] =>
    if name = "verbose" then .next progress.raise
    else if name = "version" then .stop progress.version
    else if name = "help" then .stop .help
    else
      match progress.longOption? name with
      | some option => .value progress option
      | none => .stop .usage
  | _ :: value =>
    match progress.longOption? name with
    | none => .stop .usage
    | some option =>
      match progress.setValue? option (String.ofList value) with
      | some progress => .next progress
      | none => .stop .usage

/-- A lone dash is no option. -/
def readArgument (progress : Progress) (arg : String) : ArgumentEffect :=
  match arg.toList with
  | '-' :: '-' :: long => readLong progress long
  | '-' :: letter :: letters => readLetters progress (letter :: letters)
  | _ =>
    match progress.takePlain? arg with
    | some progress => .next progress
    | none => .stop .usage

/-! ## All arguments -/

/-- Behind two dashes that stand alone there are only paths. -/
def readPlain (progress : Progress) : List String → Request
  | [] => progress.finish
  | arg :: rest =>
    if progress.subcommand.isNone then .usage
    else
      match progress.takePlain? arg with
      | some progress => readPlain progress rest
      | none => .usage

/-- Whether an argument can be the value of the option before it. -/
def isValue (arg : String) : Bool :=
  match arg.toList with
  | '-' :: _ :: _ => false
  | _ => true

/-- What follows the word for help: at most the name of a subcommand. -/
def readHelp : List String → Request
  | [] => .help
  | [name] => if name = "help" || (Subcommand.ofName? name).isSome then .help else .usage
  | _ => .usage

/-- Reads arguments; `open_` is an option that waits for its value. -/
def readFrom (progress : Progress) (open_ : Option ValueOption) : List String → Request
  | [] => if open_.isSome then .usage else progress.finish
  | arg :: rest =>
    match open_ with
    | some option =>
      if isValue arg then
        match progress.setValue? option arg with
        | some progress => readFrom progress none rest
        | none => .usage
      else .usage
    | none =>
      if arg = "--" then readPlain progress rest
      else if arg = "help" && progress.subcommand.isNone then readHelp rest
      else
        match readArgument progress arg with
        | .next progress => readFrom progress none rest
        | .value progress option => readFrom progress (some option) rest
        | .stop request => request

def readArguments (args : List String) : Request :=
  readFrom {} none args

end SourceGen.Command
