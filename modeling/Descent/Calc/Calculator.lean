import Descent.Calc.Evaluate
import Descent.Calc.Grammar
import Descent.Reader

/-!
# The calculator

A reader for the calculator's grammar that answers with trees and their values.
-/

namespace Descent.Calc

/-- A calculator: its reader, and the store that the reader works on. -/
structure Calculator where
  reader : Reader
  store : Store

namespace Calculator

/-- Builds a calculator. -/
def new (options : CalcOptions) (readerOptions : ReaderOptions) : Except CalcError Calculator :=
  match (grammar options).build [] [] Store.empty with
  | (.ok parser, store) =>
    .ok ⟨{ parser := parser, options := readerOptions, tracked := true }, store⟩
  | (.error error, _) => .error (.grammar error)

/-- The tree of a source; `none` if parsing does not come to an end. -/
def parse (calculator : Calculator) (source : List Char) : Option (Except CalcError Expr) :=
  match calculator.reader.parse source calculator.store with
  | none => none
  | some (.error error, _) => some (.error (.parse error))
  | some (.ok value, _) => (Expr.ofValue? value).map .ok

/-- The value of a source. -/
def evaluate (calculator : Calculator) (source : List Char) : Option (Except CalcError Int) :=
  match calculator.parse source with
  | none => none
  | some (.error error) => some (.error error)
  | some (.ok e) => some e.evaluate

end Calculator

end Descent.Calc
