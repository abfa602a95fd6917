import Descent.Text.Decimal

/-!
# Arguments

Command lines: options in long and short form, with their values attached or in the next argument,
and other arguments. Two hyphens alone end the options.
-/

namespace Descent.Cli

/-- Why a command line is not carried out: it is wrong, or it asks about the program instead. -/
inductive Stop where
  | misuse
  | inquiry
deriving DecidableEq, Repr, Inhabited

/-- An option of a command. -/
structure Opt where
  long : String
  short : Char
  /-- Whether it is followed by a value. -/
  valued : Bool := false
  /-- Whether it may be given more than once. -/
  repeatable : Bool := false
  /-- Whether it asks about the program, so that no command is carried out. -/
  asking : Bool := false
deriving DecidableEq, Repr

/-- The option that asks for help, which every command has. -/
def helpOption : Opt := { long := "help", short := 'h', asking := true }

/-- What has been read of a command line. -/
structure Arguments where
  /-- The options given, by long name, with their values. -/
  options : List (String × String) := []
  /-- All other arguments, in order. -/
  others : List String := []
deriving DecidableEq, Repr, Inhabited

namespace Arguments

/-- Whether an option was given. -/
def has (args : Arguments) (long : String) : Bool := (args.options.lookup long).isSome

/-- The value of an option, if it was given. -/
def value? (args : Arguments) (long : String) : Option String := args.options.lookup long

/-- Adds an option. Most may be given only once. -/
def addOption (opt : Opt) (value : String) (args : Arguments) : Except Stop Arguments :=
  if opt.asking then .error .inquiry
  else if args.has opt.long && !opt.repeatable then .error .misuse
  else .ok { args with options := (opt.long, value) :: args.options }

/-- Adds an argument that is no option. -/
def addOther (other : String) (args : Arguments) : Arguments :=
  { args with others := args.others ++ [other] }

end Arguments

/-! ## Options -/

/-- What an argument with options does: it adds them, or leaves the last one waiting for its
value. -/
abbrev Added := Except Stop (Arguments × Option Opt)

/-- Reads an argument in long form, without its hyphens. -/
def readLong (opts : List Opt) (text : List Char) (args : Arguments) : Added :=
  let name := String.ofList (text.takeWhile (· != '='))
  let attached? := match text.dropWhile (· != '=') with
    | [] => none
    | _ :: value => some (String.ofList value)
  match opts.find? (·.long = name), attached? with
  | none, _ => .error .misuse
  | some opt, none =>
    if opt.valued then .ok (args, some opt) else (args.addOption opt "").map (·, none)
  | some opt, some value =>
    if opt.valued then (args.addOption opt value).map (·, none) else .error .misuse

/-- Reads an argument in short form, without its hyphen: options without values, of which the last
may be one with a value. -/
def readShort (opts : List Opt) : List Char → Arguments → Added
  | [], args => .ok (args, none)
  | letter :: rest, args =>
    match opts.find? (·.short = letter) with
    | none => .error .misuse
    | some opt =>
      if opt.valued then
        match rest with
        | [] => .ok (args, some opt)
        | '=' :: value => (args.addOption opt (String.ofList value)).map (·, none)
        | value => (args.addOption opt (String.ofList value)).map (·, none)
      else
        match args.addOption opt "" with
        | .error stop => .error stop
        | .ok args => readShort opts rest args

/-- Reads arguments. `waiting?` is the option whose value comes next. -/
def readArguments (opts : List Opt) (waiting? : Option Opt) (args : Arguments) :
    List String → Except Stop Arguments
  | [] => if waiting?.isSome then .error .misuse else .ok args
  | arg :: rest =>
    match arg.toList, waiting? with
    | ['-', '-'], none => .ok (rest.foldl (fun args other => args.addOther other) args)
    | '-' :: '-' :: text, none =>
      match readLong opts text args with
      | .error stop => .error stop
      | .ok (args, waiting?) => readArguments opts waiting? args rest
    | '-' :: letter :: letters, none =>
      match readShort opts (letter :: letters) args with
      | .error stop => .error stop
      | .ok (args, waiting?) => readArguments opts waiting? args rest
    | '-' :: _ :: _, some _ => .error .misuse
    | _, some opt =>
      match args.addOption opt arg with
      | .error stop => .error stop
      | .ok args => readArguments opts none args rest
    | _, none => readArguments opts none (args.addOther arg) rest

end Descent.Cli
