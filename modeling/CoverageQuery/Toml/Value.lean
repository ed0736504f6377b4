/-!
# TOML values and tables

A table remembers how it came to be, since that decides what may still be added to it: a table with
a header or in braces is defined once, one that only stands above another in a header may still get
a header of its own, and one made by a dotted key is extended by dotted keys.
-/

namespace CoverageQuery.Toml

inductive TableOrigin where
  | header
  | braces
  | above
  | dotted
deriving DecidableEq, Repr

/-- Of floats and of dates and times it matters only that they are there. -/
inductive Value where
  | string (s : String)
  | integer (n : Int64)
  | boolean (b : Bool)
  | float
  | moment
  | array (items : List Value)
  | table (origin : TableOrigin) (entries : List (String × Value))
  | tables (rows : List (List (String × Value)))

abbrev Entries := List (String × Value)

namespace Entries

def get? (entries : Entries) (key : String) : Option Value :=
  match entries with
  | [] => none
  | (name, value) :: entries => if name = key then some value else get? entries key

/-- Replaces the value of a key that is present, and adds one that is not at the end. -/
def put (entries : Entries) (key : String) (value : Value) : Entries :=
  match entries with
  | [] => [(key, value)]
  | (name, old) :: entries =>
    if name = key then (name, value) :: entries else (name, old) :: put entries key value

/-- Changes the last of some rows. -/
def changeLast (change : Entries → Option Entries) : List Entries → Option (List Entries)
  | [] => none
  | [row] => (change row).map ([·])
  | row :: rows => (changeLast change rows).map (row :: ·)

/-- Changes the table at the end of a path. Tables on the way that are missing are made; in an
array of tables the way leads into the last one. -/
def changeAt (change : Entries → Option Entries) : List String → Entries → Option Entries
  | [], entries => change entries
  | key :: path, entries =>
    match get? entries key with
    | none => do
      let inner ← changeAt change path []
      some (put entries key (.table .above inner))
    | some (.table .braces _) => none
    | some (.table origin inner) => do
      let inner ← changeAt change path inner
      some (put entries key (.table origin inner))
    | some (.tables rows) => do
      let rows ← changeLast (changeAt change path) rows
      some (put entries key (.tables rows))
    | some _ => none

/-- Gives a value to a dotted key. The table that it goes into must be the current one or made by
dotted keys, the tables on the way must not have a header. -/
def define (key : String) (value : Value) : List String → Entries → Option Entries
  | [], entries => if (get? entries key).isSome then none else some (put entries key value)
  | name :: path, entries =>
    match get? entries name with
    | none => do
      let inner ← define key value path []
      some (put entries name (.table .dotted inner))
    | some (.table .dotted inner) => do
      let inner ← define key value path inner
      some (put entries name (.table .dotted inner))
    | some (.table .above inner) =>
      if path = [] then none
      else do
        let inner ← define key value path inner
        some (put entries name (.table .above inner))
    | some (.tables rows) =>
      if path = [] then none
      else do
        let rows ← changeLast (define key value path) rows
        some (put entries name (.tables rows))
    | some _ => none

/-- Begins the table of a header. -/
def openTable (path : List String) (key : String) (root : Entries) : Option Entries :=
  changeAt (fun entries =>
    match get? entries key with
    | none => some (put entries key (.table .header []))
    | some (.table .above inner) => some (put entries key (.table .header inner))
    | some _ => none) path root

/-- Begins a further table of an array of tables. -/
def openRow (path : List String) (key : String) (root : Entries) : Option Entries :=
  changeAt (fun entries =>
    match get? entries key with
    | none => some (put entries key (.tables [[]]))
    | some (.tables rows) => some (put entries key (.tables (rows ++ [[]])))
    | some _ => none) path root

end Entries

end CoverageQuery.Toml
