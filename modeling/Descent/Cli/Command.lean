import Descent.Cli.Arguments
import Descent.Settings.Basic

/-!
# Commands

The two commands of the program and their command lines.
-/

namespace Descent.Cli

open Settings (OutputFormat)

/-- What the program is asked to do. -/
inductive Command where
  /-- To evaluate an expression. -/
  | evaluate (expression : String) (format? : Option String) (config? : Option String)
  /-- To match an input against a pattern at a position. -/
  | matchPattern (pattern input : String) (position : Nat) (ignoreCase : Bool)
deriving DecidableEq, Repr

namespace Command

/-- The names of the output formats. -/
def formats : List String := ["value", "json", "yaml"]

/-- The greatest position that may be given. -/
def maxPosition : Nat := 18446744073709551615

def formatOption : Opt := { long := "format", short := 'f', valued := true }

def configOption : Opt := { long := "config", short := 'c', valued := true }

def positionOption : Opt := { long := "position", short := 'p', valued := true }

def ignoreCaseOption : Opt := { long := "ignore-case", short := 'i' }

def verboseOption : Opt := { long := "verbose", short := 'v', repeatable := true }

def versionOption : Opt := { long := "version", short := 'V', asking := true }

/-- The command line of `calc`: an expression, and the format and the settings file to use. -/
def readEvaluate (arguments : List String) : Except Stop Command := do
  let args ← readArguments [formatOption, configOption, helpOption] none {} arguments
  let format? := args.value? "format"
  match args.others with
  | [expression] =>
    if (format?.map formats.contains).getD true then
      .ok (.evaluate expression format? (args.value? "config"))
    else .error .misuse
  | _ => .error .misuse

/-- The command line of `match`: a pattern and an input, where to match, and whether case counts. -/
def readMatch (arguments : List String) : Except Stop Command := do
  let args ← readArguments [positionOption, ignoreCaseOption, helpOption] none {} arguments
  let position? := match args.value? "position" with
    | none => some 0
    | some digits => Text.natUpTo? maxPosition digits.toList
  match args.others, position? with
  | [pattern, input], some position =>
    .ok (.matchPattern pattern input position (args.has "ignore-case"))
  | _, _ => .error .misuse

/-- The command of a command line: options of the program, the name of a command, and the arguments
of the command. -/
def ofArguments (args : Arguments) : List String → Except Stop Command
  | [] => .error .misuse
  | arg :: rest =>
    match arg with
    | "calc" => readEvaluate rest
    | "match" => readMatch rest
    | "help" => .error .inquiry
    | _ =>
      let opts := [verboseOption, helpOption, versionOption]
      let added : Added := match arg.toList with
        | ['-', '-'] => .error .misuse
        | '-' :: '-' :: text => readLong opts text args
        | '-' :: letter :: letters => readShort opts (letter :: letters) args
        | _ => .error .misuse
      match added with
      | .error stop => .error stop
      | .ok (args, _) => ofArguments args rest

end Command

end Descent.Cli
