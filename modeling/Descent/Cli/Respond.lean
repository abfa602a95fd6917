import Descent.Calc.Calculator
import Descent.Cli.Command
import Descent.Settings.Loader
import Descent.Value.Shown

/-!
# Responses

What the program prints and how it ends. A command line that is wrong ends it with 2, a command that
fails with 1 and a line that tells why.
-/

namespace Descent.Cli

open Settings (Files Loader OutputFormat SettingsError)

/-- How the program ends, what it prints, and what it prints about failures. -/
structure Response where
  exit : Nat
  output : String := ""
  complaint : String := ""
deriving DecidableEq, Repr, Inhabited

namespace Response

/-- The end of a command that has printed a line. -/
def line (text : List Char) : Response := ⟨0, String.ofList (text ++ ['\n']), ""⟩

/-- The end of a command that failed. -/
def failure (what : String) (why : String) : Response := ⟨1, "", what ++ ": " ++ why ++ "\n"⟩

end Response

/-- The text without the blanks and line ends behind it. -/
def trimEnd (text : List Char) : List Char :=
  (text.reverse.dropWhile Unicode.whiteSpace.contains).reverse

/-- The text of a tree in an output format. -/
def render (format : OutputFormat) (e : Calc.Expr) : Except Calc.CalcError (List Char) :=
  match format with
  | .value => e.evaluate.map Text.decimal
  | .json => .ok e.json
  | .yaml => .ok e.yaml

/-- The layers of settings that a command line names: a file, and the format above it. -/
def loader (format? config? : Option String) : Settings.Found Loader :=
  let loader : Loader := match config? with
    | some name => Loader.withFile name {}
    | none => {}
  match format? with
  | some format => loader.setOverride "output.format" (Settings.Scalar.str format)
  | none => .ok loader

/-- Why settings could not be loaded. What is wrong with a file that is no TOML takes no line of its
own. -/
def settingsFailure (error : SettingsError) : Response :=
  let response := Response.failure "Error loading configuration" error.message
  match error with
  | .badFile => { response with complaint := "Error loading configuration: " ++ error.message }
  | _ => response

/-- Evaluates an expression. -/
def evaluate (files : Files) (expression : String) (format? config? : Option String) : Response :=
  match (loader format? config?).bind (·.build files) with
  | .error error => settingsFailure error
  | .ok settings =>
    match Calc.Calculator.new settings.calculator settings.reader with
    | .error error => .failure "Grammar error" error.message
    | .ok calculator =>
      match calculator.parse expression.toList with
      | none => .failure "Parse error" "no end"
      | some (.error error) => .failure "Parse error" error.message
      | some (.ok e) =>
        match render settings.output.format e with
        | .error error => .failure "Error" error.message
        | .ok text => .line (trimEnd text)

/-- Matches an input against a pattern. -/
def matchPattern (pattern input : String) (position : Nat) (ignoreCase : Bool) : Response :=
  match Pattern.compile? pattern ignoreCase with
  | none => .failure "Grammar error" (GrammarError.invalidPattern pattern).message
  | some p =>
    match Reader.parseAt (.pattern p) input.toList position Store.empty with
    | none => .failure "Error" "no end"
    | some (.error error, _) => .failure "Error" error.message
    | some (.ok outcome, _) => .line outcome.json

/-- Carries out a command. -/
def Command.run (files : Files) : Command → Response
  | .evaluate expression format? config? => Cli.evaluate files expression format? config?
  | .matchPattern pattern input position ignoreCase =>
    Cli.matchPattern pattern input position ignoreCase

/-- Carries out a command line. One that asks about the program instead ends well and prints
nothing. -/
def respond (files : Files) (arguments : List String) : Response :=
  match Command.ofArguments {} arguments with
  | .ok command => command.run files
  | .error .misuse => ⟨2, "", ""⟩
  | .error .inquiry => ⟨0, "", ""⟩

/-- The places of the settings file that a command line names. -/
def placesWanted (arguments : List String) : List String :=
  match Command.ofArguments {} arguments with
  | .ok (.evaluate _ _ (some name)) => Settings.Location.candidates name
  | _ => []

end Descent.Cli
