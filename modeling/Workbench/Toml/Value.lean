set_option autoImplicit false

namespace Workbench.Toml

abbrev Key := List Char

inductive Origin
  | header
  | implied
  | dotted
  | braces
  deriving DecidableEq, Repr

inductive Value
  | text (value : List Char)
  | integer (value : Int)
  | float (written : List Char)
  | boolean (value : Bool)
  | date (written : List Char)
  -- `ofTables` tells an array of tables with headers from one written in brackets.
  | array (ofTables : Bool) (items : List Value)
  | table (origin : Origin) (entries : List (Key × Value))
  deriving Repr

abbrev Entries := List (Key × Value)

namespace Entries

def get? (entries : Entries) (key : Key) : Option Value :=
  entries.lookup key

def put (key : Key) (value : Value) : Entries -> Entries
  | [] => [(key, value)]
  | (other, old) :: rest =>
      if other = key then (key, value) :: rest else (other, old) :: put key value rest

end Entries

def editAt? (dotted : Bool) (edit : Origin -> Entries -> Option Value) :
    List Key -> Origin -> Entries -> Option Value
  | [], origin, entries => edit origin entries
  | key :: path, origin, entries => do
      let changed ←
        match entries.get? key with
        | none => editAt? dotted edit path (if dotted then .dotted else .implied) []
        | some (.table .braces _) => none
        | some (.table inner innerEntries) =>
            if dotted && inner = .header then none
            else editAt? dotted edit path inner innerEntries
        | some (.array true items) =>
            match items.reverse with
            | .table inner innerEntries :: before => do
                let last ← editAt? dotted edit path inner innerEntries
                pure (.array true (before.reverse ++ [last]))
            | _ => none
        | some _ => none
      pure (.table origin (entries.put key changed))

def addValue? (path : List Key) (key : Key) (value : Value) (origin : Origin)
    (entries : Entries) : Option Value :=
  editAt? true
    (fun origin entries =>
      -- Without a path the key is plain, and plain keys may not enter a table of dotted ones.
      if (origin = .dotted) = path.isEmpty || (entries.get? key).isSome then none
      else some (.table origin (entries.put key value)))
    path origin entries

def addTable? (path : List Key) (key : Key) (origin : Origin) (entries : Entries) :
    Option Value :=
  editAt? false
    (fun origin entries =>
      match entries.get? key with
      | none => some (.table origin (entries.put key (.table .header [])))
      | some (.table .implied inner) =>
          some (.table origin (entries.put key (.table .header inner)))
      | some _ => none)
    path origin entries

def addElement? (path : List Key) (key : Key) (origin : Origin) (entries : Entries) :
    Option Value :=
  editAt? false
    (fun origin entries =>
      match entries.get? key with
      | none => some (.table origin (entries.put key (.array true [.table .header []])))
      | some (.array true items) =>
          some (.table origin (entries.put key (.array true (items ++ [.table .header []]))))
      | some _ => none)
    path origin entries

end Workbench.Toml
