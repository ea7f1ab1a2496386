import Scaffold.Record.Basic

/-!
# Settings documents

A settings document is a table of values under keys, kept in the order of the keys. A table may be
given in parts: by a header, by keys with dots, or because something deeper has a header of its own.
How it came to be decides what may be added to it later:

* a table written in braces is complete;
* a table that a header opened is complete but for what a deeper header or one more segment of it
  adds;
* a table that only deeper headers made may be opened once by a header of its own;
* a table that dotted keys made is added to by dotted keys.

A path that meets a list of tables made by headers goes on in the last of them.

## Main definitions

* `Toml.Value`: a value, where tables remember their origin.
* `Toml.Statement`: a line of a document.
* `Toml.tableOf`: the table that some statements give, if they fit together.
-/

namespace Scaffold.Toml

/-- How a table came to be. -/
inductive Origin where
  | braces
  | header
  | deeperHeader
  | dottedKey
  deriving DecidableEq, Repr

/-- A value. A floating point number is given as it is shown in messages, and of a date or a time it
only matters that it is one. A number without a value is well formed, but has no digits or is too
large. -/
inductive Value where
  | string (s : String)
  | integer (n : Int)
  | floating (text : String)
  | numberWithoutValue
  | boolean (b : Bool)
  | moment
  | array (items : List Value)
  | tables (elements : List (List (String × Value)))
  | table (origin : Origin) (members : List (String × Value))
  deriving Repr

/-- The members of a table. -/
abbrev Members := List (String × Value)

/-- What a value is found to be, if it has a value. -/
def Value.found? : Value → Option Record.Found
  | .string s => some (.string s)
  | .integer n => some (.integer n)
  | .floating text => some (.floating text)
  | .numberWithoutValue => none
  | .boolean b => some (.boolean b)
  | .moment => some .map
  | .array _ => some .sequence
  | .tables _ => some .sequence
  | .table _ _ => some .map

/-- A line of a document: a header, a header of one more table of a list, or a value under a path of
keys. -/
inductive Statement where
  | header (path : List String)
  | element (path : List String)
  | assignment (path : List String) (value : Value)
  deriving Repr

/-- The members with the value under a key changed. The value may be missing before and is there
afterwards. Members in the order of their keys stay so. -/
def alter (key : String) (f : Option Value → Option Value) : Members → Option Members
  | [] => (f none).map fun v => [(key, v)]
  | (k, v) :: rest =>
    if k = key then (f (some v)).map fun v => (k, v) :: rest
    else if key < k then (f none).map fun new => (key, new) :: (k, v) :: rest
    else (alter key f rest).map fun rest => (k, v) :: rest

/-- A list with its last element changed; the list has to have one. -/
def alterLast {α : Type} (f : α → Option α) : List α → Option (List α)
  | [] => none
  | [x] => (f x).map fun x => [x]
  | x :: rest => (alterLast f rest).map fun rest => x :: rest

/-- Whether keys lead into a table: headers do unless it is written in braces, dotted keys only if
no header opened it. -/
def Origin.admits (origin : Origin) (dotted : Bool) : Bool :=
  match origin with
  | .braces => false
  | .header => !dotted
  | .deeperHeader | .dottedKey => true

/-- The members with the table at the end of a path changed, which makes the tables on the path that
are missing. Of a list of tables the path leads into the last. -/
def descend (dotted : Bool) (f : Origin → Members → Option Members) :
    List String → Origin → Members → Option Members
  | [], origin, members => f origin members
  | key :: path, _, members =>
    members |> alter key fun
      | none =>
        let origin : Origin := if dotted then .dottedKey else .deeperHeader
        (descend dotted f path origin []).map (.table origin)
      | some (.table origin inner) =>
        if origin.admits dotted then (descend dotted f path origin inner).map (.table origin)
        else none
      | some (.tables elements) =>
        (elements |> alterLast fun e => descend dotted f path .header e).map .tables
      | some _ => none

/-- The members with a value under a new key. -/
def assignKey (key : String) (value : Value) : Members → Option Members :=
  alter key fun
    | none => some value
    | some _ => none

/-- The members with a value under a path of keys. Keys with dots only lead to tables that dotted
keys made, and keys without to the table that is open. -/
def assign (path : List String) (value : Value) (origin : Origin) (members : Members) :
    Option Members :=
  match path.getLast? with
  | none => none
  | some key =>
    let above := path.dropLast
    let place (origin : Origin) (members : Members) : Option Members :=
      if above.isEmpty || origin = .dottedKey then assignKey key value members else none
    descend true place above origin members

/-- The members with a table opened by a header. -/
def openTable (path : List String) (members : Members) : Option Members :=
  match path.getLast? with
  | none => none
  | some key =>
    let place (_ : Origin) (members : Members) : Option Members :=
      members |> alter key fun
        | none => some (.table .header [])
        | some (.table .deeperHeader inner) => some (.table .header inner)
        | some _ => none
    descend false place path.dropLast .header members

/-- The members with one more table of a list opened by a header. -/
def openElement (path : List String) (members : Members) : Option Members :=
  match path.getLast? with
  | none => none
  | some key =>
    let place (_ : Origin) (members : Members) : Option Members :=
      members |> alter key fun
        | none => some (.tables [[]])
        | some (.tables elements) => some (.tables (elements ++ [[]]))
        | some _ => none
    descend false place path.dropLast .header members

/-- The members with one statement added below the header that is open. The header of the next
statement comes with them. -/
def addStatement (state : List String × Members) (s : Statement) :
    Option (List String × Members) :=
  match s with
  | .header path => (openTable path state.2).map fun members => (path, members)
  | .element path => (openElement path state.2).map fun members => (path, members)
  | .assignment path value =>
    (descend false (assign path value) state.1 .header state.2).map fun members =>
      (state.1, members)

/-- The table that some statements give, if they fit together. -/
def tableOf (statements : List Statement) : Option Members :=
  (statements.foldlM addStatement ([], [])).map Prod.snd

/-- The table that some assignments in braces give, if they fit together. -/
def bracesOf (assignments : List (List String × Value)) : Option Members :=
  assignments.foldlM (fun members (path, value) => assign path value .header members) []

end Scaffold.Toml
