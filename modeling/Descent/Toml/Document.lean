import Descent.Toml.Scalar

/-!
# TOML documents

`Toml.read?` reads a document of TOML 1.0. A table is defined once: by a header, by dotted keys, or
as a value; the tables that a header only passes through may still get a header of their own.
-/

namespace Descent.Toml

/-! ## Tables under construction -/

/-- How a table has come about. -/
inductive Origin where
  /-- By a header of its own. -/
  | defined
  /-- As a part of the name in another table's header. -/
  | implied
  /-- As a part of a dotted key. -/
  | dotted
deriving DecidableEq, Repr

/-- A part of a document under construction. -/
inductive Node where
  | value (v : Value)
  | table (origin : Origin) (entries : List (String × Node))
  /-- Tables with the same header in double brackets, latest first. -/
  | tables (all : List (List (String × Node)))

/-- The entries of a table under construction. -/
abbrev Entries := List (String × Node)

/-- Puts a node in the place of the one with that key, or at the end. -/
def Entries.put (key : String) (node : Node) : Entries → Entries
  | [] => [(key, node)]
  | (k, n) :: rest => if k = key then (k, node) :: rest else (k, n) :: Entries.put key node rest

/-- Changes the entries at the end of the path of a header. -/
def underHeader (change : Entries → Option Entries) : List String → Entries → Option Entries
  | [], entries => change entries
  | key :: path, entries => do
    match entries.lookup key with
    | none => some (Entries.put key (.table .implied (← underHeader change path [])) entries)
    | some (.table origin inner) =>
      some (Entries.put key (.table origin (← underHeader change path inner)) entries)
    | some (.tables (latest :: older)) =>
      some (Entries.put key (.tables ((← underHeader change path latest) :: older)) entries)
    | some _ => none

/-- Defines a table by its header. -/
def defineTable (key : String) (entries : Entries) : Option Entries :=
  match entries.lookup key with
  | none => some (Entries.put key (.table .defined []) entries)
  | some (.table .implied inner) => some (Entries.put key (.table .defined inner) entries)
  | some _ => none

/-- Adds a table to those with the same header in double brackets. -/
def addTable (key : String) (entries : Entries) : Option Entries :=
  match entries.lookup key with
  | none => some (Entries.put key (.tables [[]]) entries)
  | some (.tables all) => some (Entries.put key (.tables ([] :: all)) entries)
  | some _ => none

/-- Adds a value under a dotted key. `direct` tells that a key may be added to these very
entries. -/
def addValue (direct : Bool) (path : List String) (key : String) (v : Value) (entries : Entries) :
    Option Entries :=
  match path with
  | [] =>
    if !direct || (entries.lookup key).isSome then none
    else some (Entries.put key (.value v) entries)
  | part :: path => do
    match entries.lookup part with
    | none =>
      some (Entries.put part (.table .dotted (← addValue true path key v [])) entries)
    | some (.table .dotted inner) =>
      some (Entries.put part (.table .dotted (← addValue true path key v inner)) entries)
    | some (.table .implied inner) =>
      some (Entries.put part (.table .implied (← addValue false path key v inner)) entries)
    | some (.tables (latest :: older)) =>
      some (Entries.put part (.tables ((← addValue false path key v latest) :: older)) entries)
    | some _ => none

mutual

/-- The value of a finished part. -/
def Node.finish : Node → Value
  | .value v => v
  | .table _ entries => .table (finishEntries entries)
  | .tables all => .arr (finishTables all).reverse

def finishEntries : List (String × Node) → List (String × Value)
  | [] => []
  | (key, node) :: rest => (key, node.finish) :: finishEntries rest

def finishTables : List (List (String × Node)) → List Value
  | [] => []
  | entries :: rest => .table (finishEntries entries) :: finishTables rest

end

/-! ## Reading -/

/-- A reading step; it fails on text that is no TOML. -/
abbrev Scan := StateT (List Char) Option

namespace Scan

def fail {α : Type} : Scan α := fun _ => none

/-- The value, if there is one. -/
def of? {α : Type} (a? : Option α) : Scan α := fun rest => a?.map fun a => (a, rest)

/-- Skips blanks on the line. -/
def blanks : Scan Unit := modify fun rest => rest.dropWhile fun c => c = ' ' || c = '\t'

/-- Consumes a text that has to come next. -/
def expect (text : List Char) : Scan Unit := fun rest =>
  if text.isPrefixOf rest then some ((), rest.drop text.length) else none

/-- The text after a line end, if the text starts with one. -/
def afterNewline? : List Char → Option (List Char)
  | '\n' :: rest => some rest
  | '\r' :: '\n' :: rest => some rest
  | _ => none

/-- The text after a comment, if the text starts with one. -/
def afterComment : List Char → List Char
  | '#' :: rest => rest.dropWhile isTextChar
  | rest => rest

/-- Skips blanks and a comment up to the end of the line. -/
def lineEnd : Scan Unit := do
  blanks
  let rest := afterComment (← get)
  match afterNewline? rest with
  | some rest => set rest
  | none => if rest.isEmpty then set rest else fail

/-- Skips blanks, comments and line ends, at most `fuel` lines. -/
def lines : Nat → Scan Unit
  | 0 => fail
  | fuel + 1 => do
    blanks
    let rest ← get
    match rest with
    | '#' :: _ =>
      match afterNewline? (afterComment rest) with
      | some rest => do set rest; lines fuel
      | none => fail
    | _ =>
      match afterNewline? rest with
      | some rest => do set rest; lines fuel
      | none => pure ()

end Scan

open Scan

/-- The number of levels that arrays and tables in values, and the parts of keys, stay below. -/
def nestingLimit : Nat := 80

/-! ### Keys -/

/-- Whether a character may stand in a key without quotes. -/
def isKeyChar (c : Char) : Bool := c.isAlphanum || c = '-' || c = '_'

/-- One part of a key. -/
def readKeyPart : Scan String := do
  let rest ← get
  match rest with
  | '"' :: rest =>
    let (text, rest) ← of? (basicString rest)
    set rest
    return String.ofList text
  | '\'' :: rest =>
    let (text, rest) ← of? (literalString rest)
    set rest
    return String.ofList text
  | _ =>
    let key := rest.takeWhile isKeyChar
    if key.isEmpty then fail
    set (rest.drop key.length)
    return String.ofList key

/-- The parts of a key, with dots between them; fewer than `fuel`. -/
def readKey : Nat → Scan (List String)
  | 0 => fail
  | fuel + 1 => do
    blanks
    let part ← readKeyPart
    blanks
    match ← get with
    | '.' :: rest =>
      set rest
      return part :: (← readKey fuel)
    | _ => return [part]

/-- The parts of a key but for the last one, and the last one. -/
def splitKey : List String → Option (List String × String)
  | [] => none
  | parts => parts.getLast?.map fun last => (parts.dropLast, last)

/-- A key and the equals sign after it. -/
def readAssignment : Scan (List String × String) := do
  let key ← of? (splitKey (← readKey (nestingLimit - 1)))
  expect ['=']
  blanks
  return key

/-! ### Values -/

/-- The items of an array up to its closing bracket, at most `fuel` of them. -/
def readItems (readItem : Scan Value) : Nat → Scan (List Value)
  | 0 => fail
  | fuel + 1 => do
    lines ((← get).length + 1)
    match ← get with
    | ']' :: rest => set rest; return []
    | _ =>
      let item ← readItem
      lines ((← get).length + 1)
      match ← get with
      | ',' :: rest => set rest; return item :: (← readItems readItem fuel)
      | ']' :: rest => set rest; return [item]
      | _ => fail

/-- The entries of a table in braces up to its end, at most `fuel` of them. -/
def readEntries (readItem : Scan Value) (entries : Entries) : Nat → Scan Entries
  | 0 => fail
  | fuel + 1 => do
    let (path, key) ← readAssignment
    let item ← readItem
    let entries ← of? (addValue true path key item entries)
    blanks
    match ← get with
    | ',' :: rest => set rest; readEntries readItem entries fuel
    | '\x7d' :: rest => set rest; return entries
    | _ => fail

/-- A value with fewer than `depth` levels. -/
def readValue : Nat → Scan Value
  | 0 => fail
  | depth + 1 => do
    let rest ← get
    match stringAt? rest with
    | some string =>
      let (text, rest) ← of? string
      set rest
      return .str (String.ofList text)
    | none =>
      match rest with
      | '[' :: rest =>
        set rest
        return .arr (← readItems (readValue depth) (rest.length + 1))
      | '\x7b' :: rest =>
        set rest
        blanks
        match ← get with
        | '\x7d' :: rest => set rest; return .table []
        | _ =>
          let entries ← readEntries (readValue depth) [] (rest.length + 1)
          return .table (finishEntries entries)
      | _ =>
        let (word, rest) := wordAt rest
        set rest
        of? (word? word)

/-! ### Documents -/

/-- The lines of a document, after those that gave `root` and the header `path`; at most `fuel`. -/
def readLines (root : Entries) (path : List String) : Nat → Scan Entries
  | 0 => fail
  | fuel + 1 => do
    blanks
    match ← get with
    | [] => return root
    | '[' :: '[' :: rest =>
      set rest
      let header ← readKey (nestingLimit - 1)
      expect [']', ']']
      lineEnd
      let (parent, key) ← of? (splitKey header)
      readLines (← of? (underHeader (addTable key) parent root)) header fuel
    | '[' :: rest =>
      set rest
      let header ← readKey (nestingLimit - 1)
      expect [']']
      lineEnd
      let (parent, key) ← of? (splitKey header)
      readLines (← of? (underHeader (defineTable key) parent root)) header fuel
    | c :: _ =>
      if c = '#' || c = '\n' || c = '\r' then
        lineEnd
        readLines root path fuel
      else
        let (keys, key) ← readAssignment
        let item ← readValue nestingLimit
        lineEnd
        readLines (← of? (underHeader (addValue true keys key item) path root)) path fuel

/-- The text without a byte order mark at its start. -/
def withoutMark : List Char → List Char
  | '\uFEFF' :: rest => rest
  | text => text

/-- The table that a document writes, if it is well-formed. -/
def read? (text : List Char) : Option (List (String × Value)) :=
  let text := withoutMark text
  match (readLines [] [] (text.length + 2)).run text with
  | some (root, _) => some (finishEntries root)
  | none => none

end Descent.Toml
