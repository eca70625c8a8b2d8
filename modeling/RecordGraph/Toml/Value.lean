import RecordGraph.Double.Basic
import RecordGraph.SortedMap

/-!
# TOML values

A table remembers how it came to be, because that decides whether it may still grow: a
table with a header of its own is closed to dotted keys, an inline table is closed to
everything, and a table that was only named on the way to another may get its header later.
-/

namespace RecordGraph

/-- How a table came to be. -/
inductive Toml.TableKind
  /-- By a header of its own. -/
  | defined
  /-- By the header of a table inside it. -/
  | implied
  /-- By a dotted key. -/
  | dotted
  /-- In braces. -/
  | inline
deriving DecidableEq, Repr

/-- A TOML value. Dates and times stand as their normal text. -/
inductive Toml
  | bool (b : Bool)
  | int (i : Int64)
  | float (x : Double)
  | str (s : String)
  | arr (items : List Toml)
  | table (kind : Toml.TableKind) (fields : List (String × Toml))
  /-- An array of tables that grows by headers. -/
  | tables (elements : List Toml)
deriving Inhabited

namespace Toml

/-- The fields of a table, by key. -/
abbrev Fields := SortedMap String Toml

/-- Changes the table at the end of a path. Tables on the path are created where they are
missing, and of an array of tables the last one is meant. -/
def alter (dotted : Bool) (change : TableKind → Fields → Option (TableKind × Fields)) :
    List String → TableKind → Fields → Option (TableKind × Fields)
  | [], kind, fields => change kind fields
  | key :: path, kind, fields =>
      match SortedMap.get? fields key with
      | none =>
          (alter dotted change path (if dotted then .dotted else .implied) []).map
            fun (innerKind, inner) => (kind, SortedMap.insert fields key (table innerKind inner))
      | some (table innerKind inner) =>
          if innerKind = .inline ∨ (dotted ∧ innerKind = .defined) then none
          else
            (alter dotted change path innerKind inner).map
              fun (innerKind, inner) => (kind, SortedMap.insert fields key (table innerKind inner))
      | some (tables elements) =>
          match elements.getLast? with
          | some (table innerKind inner) =>
              (alter dotted change path innerKind inner).map fun (innerKind, inner) =>
                (kind, SortedMap.insert fields key
                  (tables (elements.dropLast ++ [table innerKind inner])))
          | _ => none
      | some _ => none

/-- Stores the value of a dotted key in a table. A key has one value, and only a table that
dotted keys made takes more of them. -/
def store (path : List String) (key : String) (v : Toml) (kind : TableKind) (fields : Fields) :
    Option (TableKind × Fields) :=
  alter true (fun kind fields =>
    if (kind = .dotted) ↔ path = [] then none
    else if SortedMap.contains fields key then none
    else some (kind, SortedMap.insert fields key v)) path kind fields

/-- Gives a table its header; it may exist already if no header or dotted key made it. -/
def openTable (path : List String) (key : String) (kind : TableKind) (fields : Fields) :
    Option (TableKind × Fields) :=
  alter false (fun kind fields =>
    match SortedMap.get? fields key with
    | none => some (kind, SortedMap.insert fields key (table .defined []))
    | some (table .implied inner) =>
        some (kind, SortedMap.insert fields key (table .defined inner))
    | some _ => none) path kind fields

/-- Adds a table to an array of tables. -/
def openElement (path : List String) (key : String) (kind : TableKind) (fields : Fields) :
    Option (TableKind × Fields) :=
  alter false (fun kind fields =>
    match SortedMap.get? fields key with
    | none => some (kind, SortedMap.insert fields key (tables [table .defined []]))
    | some (tables elements) =>
        some (kind, SortedMap.insert fields key (tables (elements ++ [table .defined []])))
    | some _ => none) path kind fields

/-- The inline table of dotted keys with their values. -/
def inlineTable? : List (List String × String × Toml) → Option Toml :=
  fun entries =>
    (entries.foldlM (fun fields (path, key, v) => (store path key v .defined fields).map Prod.snd)
      ([] : Fields)).map (table .inline)

end Toml

end RecordGraph
