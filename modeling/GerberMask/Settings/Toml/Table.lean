import GerberMask.Settings.Setting

/-!
# Tables in TOML

A document defines tables piece by piece, and no piece may say again what another has said. Every
table remembers how it came about: by a header of its own, because a header further down passes
through it, or by a dotted name. A table that a header only passed through can still get a header
of its own; one that a dotted name made can be extended by dotted names alone. A header in double
brackets appends a table to a list, and the last table of a list is the one that paths lead into.
-/

namespace GerberMask.Settings.Toml

/-- How a table came about. -/
inductive Standing where
  /-- By a header of its own. -/
  | declared
  /-- By the header of a table in it. -/
  | passed
  /-- By a dotted name. -/
  | dotted
  deriving DecidableEq, Repr

/-- What a name stands for while a document is read. -/
inductive Node where
  /-- A value; nothing can be added to it. -/
  | leaf (value : Setting)
  | table (standing : Standing) (entries : List (String × Node))
  /-- A list of tables: the last one, and those before it in reverse. -/
  | tables (last : List (String × Node)) (earlier : List (List (String × Node)))

/-- The entries of a table. -/
abbrev Entries := List (String × Node)

namespace Entries

/-- The entries with another node under a name that they have. -/
def replace (es : Entries) (key : String) (n : Node) : Entries :=
  es.map fun (k, m) ↦ if k == key then (k, n) else (k, m)

/-- A change of a table, given how the table came about. -/
abbrev Change := Standing → Entries → Option Entries

/-- Changes the table at the end of a path. Tables that are missing on the way are made; for a
dotted name the way may not lead through a table with a header of its own. -/
def at? (dotted : Bool) (change : Change) : List String → Change
  | [], standing, es => change standing es
  | key :: path, _, es =>
    match es.lookup key with
    | none =>
      let standing := if dotted then .dotted else .passed
      (at? dotted change path standing []).map fun inner ↦ es ++ [(key, .table standing inner)]
    | some (.leaf _) => none
    | some (.table standing inner) =>
      if dotted && standing == .declared then none
      else
        (at? dotted change path standing inner).map fun inner ↦
          es.replace key (.table standing inner)
    | some (.tables last earlier) =>
      (at? dotted change path .declared last).map fun last ↦
        es.replace key (.tables last earlier)

/-- Adds a new name. -/
def add? (key : String) (n : Node) (es : Entries) : Option Entries :=
  if (es.lookup key).isSome then none else some (es ++ [(key, n)])

/-- Gives a value to a dotted name. The table that gets the last part of the name is made by a
dotted name exactly if there are other parts in front. -/
def assign? (path : List String) (key : String) (value : Setting) : Change :=
  at? true (fun standing es ↦
    if (standing == .dotted) == path.isEmpty then none else es.add? key (.leaf value)) path

/-- Opens a table under a name. -/
def declare? (key : String) : Change := fun _ es ↦
  match es.lookup key with
  | none => es.add? key (.table .declared [])
  | some (.table .passed inner) => some (es.replace key (.table .declared inner))
  | some _ => none

/-- Appends a table to the list under a name. -/
def append? (key : String) : Change := fun _ es ↦
  match es.lookup key with
  | none => es.add? key (.tables [] [])
  | some (.tables last earlier) => some (es.replace key (.tables [] (last :: earlier)))
  | some _ => none

end Entries

mutual

/-- The value that a node has at the end of a document. -/
def Node.setting : Node → Setting
  | .leaf v => v
  | .table _ es => .group (settings es)
  | .tables last earlier => .list (groups earlier [.group (settings last)])

/-- The values of entries. -/
def settings : List (String × Node) → List (String × Setting)
  | [] => []
  | (key, n) :: es => (key, n.setting) :: settings es

/-- The values of tables in reverse, in front of others. -/
def groups : List (List (String × Node)) → List Setting → List Setting
  | [], vs => vs
  | es :: rest, vs => groups rest (.group (settings es) :: vs)

end

end GerberMask.Settings.Toml
