import Hanyu.Toml.Value

/-!
# Building a TOML document

A document grows line by line: a header opens a table, a key with dots reaches into tables below the
open one. What may be opened or extended again depends on how a table came about.

* `Tree.lookup_put_self`: an entry is found under the key it was put under.
* `Tree.insert_nil_of_lookup`: a key that is taken cannot be given another value.
-/

namespace Hanyu.Toml

/-- How a table came about. -/
inductive Origin where
  /-- It has a header of its own. -/
  | header
  /-- A header below it implied it. -/
  | implied
  /-- A dotted key reached through it. -/
  | dotted
deriving DecidableEq

/-- A part of a document that is being read. -/
inductive Node where
  | leaf (value : Value)
  | table (origin : Origin) (entries : List (Text × Node))
  /-- Tables under one repeated header, the last of them open. -/
  | series (tables : List (List (Text × Node)))

/-- The entries of a table that is being read, in their order. -/
abbrev Tree := List (Text × Node)

mutual

/-- The value that a part of a document stands for. -/
def Node.value : Node → Value
  | .leaf value => value
  | .table _ entries => .table (entriesValue entries)
  | .series tables => .array (tablesValue tables)

/-- The values of the entries of a table. -/
def entriesValue : List (Text × Node) → List (Text × Value)
  | [] => []
  | (key, node) :: rest => (key, node.value) :: entriesValue rest

/-- The values of the tables under one header. -/
def tablesValue : List (List (Text × Node)) → List Value
  | [] => []
  | entries :: rest => .table (entriesValue entries) :: tablesValue rest

end

namespace Tree

/-- The table with a node under a key, in the place of the one before it. -/
def put (key : Text) (node : Node) : Tree → Tree
  | [] => [(key, node)]
  | (k, n) :: rest => if k = key then (key, node) :: rest else (k, n) :: put key node rest

/-- The table with the node under a key changed, unless the change is refused. -/
def alter (key : Text) (change : Option Node → Option Node) (tree : Tree) : Option Tree :=
  (change (tree.lookup key)).map fun node => put key node tree

/-- The tables with the last one changed, unless the change is refused. -/
def alterLast (change : Tree → Option Tree) : List Tree → Option (List Tree)
  | [] => none
  | [last] => (change last).map ([·])
  | first :: rest => (alterLast change rest).map (first :: ·)

/-- A change to the table that a header names. Tables on the way are implied, and a series is
entered by its last table. -/
def atHeader (change : Tree → Option Tree) : List Text → Tree → Option Tree
  | [], tree => change tree
  | key :: path, tree => tree.alter key fun
    | none => (atHeader change path []).map (Node.table .implied)
    | some (.leaf _) => none
    | some (.table origin entries) => (atHeader change path entries).map (Node.table origin)
    | some (.series tables) => (alterLast (atHeader change path) tables).map Node.series

/-- The table with a new table open under a key; one that was only implied may be opened. -/
def openTable (key : Text) (tree : Tree) : Option Tree :=
  tree.alter key fun
    | none => some (.table .header [])
    | some (.table .implied entries) => some (.table .header entries)
    | some _ => none

/-- The table with one more table open in the series under a key. -/
def openSeries (key : Text) (tree : Tree) : Option Tree :=
  tree.alter key fun
    | none => some (.series [[]])
    | some (.series tables) => some (.series (tables ++ [[]]))
    | some _ => none

/-- The table with a value under a key that is still free. -/
def insertNew (key : Text) (value : Value) (tree : Tree) : Option Tree :=
  tree.alter key fun
    | none => some (.leaf value)
    | some _ => none

/-- The table with a value under a dotted key. Only tables that dotted keys made can be given
values in this way, and tables with a header cannot even be reached through. -/
def insert : (path : List Text) → (key : Text) → (value : Value) → Tree → Option Tree
  | [], key, value, tree => tree.insertNew key value
  | [step], key, value, tree => tree.alter step fun
    | none => (insertNew key value []).map (Node.table .dotted)
    | some (.table .dotted entries) => (insertNew key value entries).map (Node.table .dotted)
    | some _ => none
  | step :: path, key, value, tree => tree.alter step fun
    | none => (insert path key value []).map (Node.table .dotted)
    | some (.table .header _) => none
    | some (.table origin entries) => (insert path key value entries).map (Node.table origin)
    | some (.series tables) => (alterLast (insert path key value) tables).map Node.series
    | some (.leaf _) => none

theorem lookup_put_self (key : Text) (node : Node) (tree : Tree) :
    (put key node tree).lookup key = some node := by
  induction tree with
  | nil => simp [put]
  | cons entry rest ih =>
    obtain ⟨k, n⟩ := entry
    rw [put]
    split
    · simp
    · rename_i h
      have : (key == k) = false := by simpa using Ne.symm h
      simp [List.lookup_cons, this, ih]

theorem insert_nil_of_lookup {key : Text} {node : Node} {tree : Tree}
    (h : tree.lookup key = some node) (value : Value) : insert [] key value tree = none := by
  simp [insert, insertNew, alter, h]

end Tree

end Hanyu.Toml
