/-!
# Where a settings file is

A file may be named without its extension. `Location.candidates` lists the places to look at, the
first one first; a place is written without empty and `.` parts.
-/

namespace Descent.Settings.Location

/-- The parts of a name between slashes. -/
def parts (part : List Char) : List Char → List (List Char)
  | [] => [part.reverse]
  | c :: cs => if c = '/' then part.reverse :: parts [] cs else parts (c :: part) cs

/-- Whether a part leads nowhere. -/
def isIdle (part : List Char) : Bool := part = [] || part = ['.']

/-- A place from its parts. -/
def join (absolute : Bool) (ps : List (List Char)) : String :=
  String.ofList ((if absolute then ['/'] else []) ++ List.intercalate ['/'] ps)

/-- The places where a file of that name may be: the name itself, unless it ends like the name of a
directory, and the name with the extension of TOML files. -/
def candidates (name : String) : List String :=
  let all := parts [] name.toList
  let absolute := name.toList.head? == some '/'
  let ps := all.filter fun part => !isIdle part
  match ps.getLast? with
  | none => []
  | some last =>
    let itself := if (all.getLast?.map isIdle).getD true then [] else [join absolute ps]
    let extended := if last = ['.', '.'] then []
      else [join absolute (ps.dropLast ++ [last ++ ['.', 't', 'o', 'm', 'l']])]
    itself ++ extended

end Descent.Settings.Location
