import Descent.Cli.Respond

/-!
# The program

Reads the settings file that the command line names, carries out the command, and prints what it
comes to.
-/

open Descent

/-- The files at the given places that can be read. -/
def readPlaces (places : List String) : IO (List (String × String)) := do
  let mut found : Array (String × String) := #[]
  for place in places do
    try
      found := found.push (place, ← IO.FS.readFile place)
    catch _ => pure ()
  return found.toList

def main (arguments : List String) : IO UInt32 := do
  let found ← readPlaces (Cli.placesWanted arguments)
  let response := Cli.respond (fun place => found.lookup place) arguments
  IO.print response.output
  IO.eprint response.complaint
  return UInt32.ofNat response.exit
