import StatusDigest.Text.Pieces

/-!
# Options

The arguments of the program are options. An option has a long name after two dashes, and mostly a
letter after one dash. Some options have a value:

* after the long name the value follows behind an equals sign, or as the next argument;
* behind the letter the value follows at once, or behind an equals sign, or as the next argument;
  letters of options without value may stand before that letter behind the same dash.

A value that is an argument of its own does not start with a dash, unless it is just a dash. Every
option is given once at most. A question about the program itself is answered as soon as it is
read, whatever follows.
-/

namespace StatusDigest.CommandLine

/-- An option without value. -/
inductive Switch where
  /-- Print values of variables. -/
  | mrtg
  /-- Print the snapshot. -/
  | json
  /-- Print the licence terms. -/
  | license
deriving DecidableEq, Repr

/-- An option with a value. -/
inductive Parameter where
  /-- The path of the daemon's configuration. -/
  | config
  /-- The path of the status file. -/
  | statusFile
  /-- The list of variables. -/
  | variableList
  /-- What follows each value. -/
  | delimiter
  /-- What is logged. -/
  | logFilter
deriving DecidableEq, Repr

/-- A question about the program itself. -/
inductive Query where
  | help
  | version
deriving DecidableEq, Repr

/-- What an option is. -/
inductive Role where
  | switch (switch : Switch)
  | parameter (parameter : Parameter)
  | query (query : Query)
deriving DecidableEq, Repr

/-- An option with its names. -/
structure Entry where
  letter : Option Char
  name : String
  role : Role
deriving DecidableEq, Repr

/-- All options. -/
def entries : List Entry :=
  [⟨some 'c', "config", .parameter .config⟩,
   ⟨some 's', "statsfile", .parameter .statusFile⟩,
   ⟨some 'm', "mrtg", .switch .mrtg⟩,
   ⟨some 'd', "data", .parameter .variableList⟩,
   ⟨some 'D', "delimiter", .parameter .delimiter⟩,
   ⟨some 'j', "json", .switch .json⟩,
   ⟨some 'L', "license", .switch .license⟩,
   ⟨none, "log-level", .parameter .logFilter⟩,
   ⟨some 'h', "help", .query .help⟩,
   ⟨some 'V', "version", .query .version⟩]

/-- The option with a letter. -/
def Role.ofLetter? (letter : Char) : Option Role :=
  (entries.find? fun entry => entry.letter = some letter).map Entry.role

/-- The option with a long name. -/
def Role.ofName? (name : List Char) : Option Role :=
  (entries.find? fun entry => entry.name.toList = name).map Entry.role

/-- The options that are given, with their values. -/
structure Options where
  config : Option String := none
  statusFile : Option String := none
  variableList : Option String := none
  delimiter : Option String := none
  logFilter : Option String := none
  mrtg : Bool := false
  json : Bool := false
  license : Bool := false
deriving DecidableEq, Repr

namespace Options

/-- Gives an option without value, once at most. -/
def turnOn (options : Options) : Switch → Option Options
  | .mrtg => if options.mrtg then none else some { options with mrtg := true }
  | .json => if options.json then none else some { options with json := true }
  | .license => if options.license then none else some { options with license := true }

/-- Gives an option with its value, once at most. A path is not empty. -/
def give (options : Options) (value : String) : Parameter → Option Options
  | .config =>
    if options.config.isSome ∨ value = "" then none
    else some { options with config := value }
  | .statusFile =>
    if options.statusFile.isSome ∨ value = "" then none
    else some { options with statusFile := value }
  | .variableList =>
    if options.variableList.isSome then none else some { options with variableList := value }
  | .delimiter =>
    if options.delimiter.isSome then none else some { options with delimiter := value }
  | .logFilter =>
    if options.logFilter.isSome then none else some { options with logFilter := value }

end Options

/-- What is known after some arguments. -/
inductive Progress where
  /-- The options so far, and the option whose value is still to come. -/
  | given (options : Options) (awaited : Option Parameter)
  | asked (query : Query)
deriving DecidableEq, Repr

/-- Gives an option a value that stands in the same argument. -/
def attach (options : Options) (parameter : Parameter) (value : List Char) : Option Progress :=
  (options.give (String.ofList value) parameter).map (.given · none)

/-- Reads the letters behind a dash. -/
def readLetters (options : Options) : List Char → Option Progress
  | [] => some (.given options none)
  | letter :: rest =>
    match Role.ofLetter? letter with
    | some (.switch switch) =>
      match options.turnOn switch with
      | some options => readLetters options rest
      | none => none
    | some (.parameter parameter) =>
      match rest with
      | [] => some (.given options parameter)
      | '=' :: value => attach options parameter value
      | value => attach options parameter value
    | some (.query query) => some (.asked query)
    | none => none

/-- Reads a long name behind two dashes, with or without a value. -/
def readName (options : Options) (text : List Char) : Option Progress :=
  match Text.cutFirst '=' text with
  | some (name, value) =>
    match Role.ofName? name with
    | some (.parameter parameter) => attach options parameter value
    | _ => none
  | none =>
    match Role.ofName? text with
    | some (.switch switch) => (options.turnOn switch).map (.given · none)
    | some (.parameter parameter) => some (.given options parameter)
    | some (.query query) => some (.asked query)
    | none => none

/-- Reads an argument. -/
def readArgument (options : Options) (awaited : Option Parameter) (argument : String) :
    Option Progress :=
  match awaited, argument.toList with
  | some parameter, ['-'] => attach options parameter ['-']
  | some _, '-' :: _ => none
  | some parameter, value => attach options parameter value
  | none, '-' :: '-' :: text => readName options text
  | none, '-' :: letter :: rest => readLetters options (letter :: rest)
  | none, _ => none

/-- What the user wants. -/
inductive Request where
  | answer (query : Query)
  | run (options : Options)
deriving DecidableEq, Repr

/-- The request for a run. Values of variables and the snapshot cannot both be wanted, and no
value may be missing. -/
def conclude (options : Options) (awaited : Option Parameter) : Option Request :=
  if awaited.isSome ∨ (options.mrtg ∧ options.json) then none else some (.run options)

/-- Reads arguments one after the other. Two dashes may only stand at the end. -/
def readArguments (options : Options) (awaited : Option Parameter) :
    List String → Option Request
  | [] => conclude options awaited
  | argument :: rest =>
    if argument = "--" then
      if rest.isEmpty then conclude options awaited else none
    else
      match readArgument options awaited argument with
      | some (.given options awaited) => readArguments options awaited rest
      | some (.asked query) => some (.answer query)
      | none => none

/-- The request of some arguments, if they are valid. -/
def Request.ofArguments? (arguments : List String) : Option Request :=
  readArguments {} none arguments

/-- A letter without value may stand before one with a value. -/
example : Request.ofArguments? ["-md", "NUMHOSTS", "--delimiter=;"] =
    some (.run { mrtg := true, variableList := "NUMHOSTS", delimiter := ";" }) := by
  decide +kernel

/-- No option is given twice, a value does not start with a dash, and a question is answered before
what follows it is read. -/
example : [["-m", "-m"], ["-d", "-x"], ["-mV", "what"]].map Request.ofArguments? =
    [none, none, some (.answer .version)] := by
  decide +kernel

end StatusDigest.CommandLine
