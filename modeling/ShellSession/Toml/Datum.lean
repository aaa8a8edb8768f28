/-
**TOML data.**

A table remembers how it came about, because that decides what may still be added to it: a table
that a header only passes through may get a header of its own later, one made by dotted keys may get
more dotted keys, and one written inline or under its own header is complete.

* `Datum`: what stands behind a key;
* `putPair`, `openTable`, `openElement`: a pair, a table header and an element header taken into a
  table, unless that contradicts what is there.
-/

namespace ShellSession.Toml

/-- How a table came about. -/
inductive Origin where
  | inline
  | passed
  | headed
  | dotted
deriving Repr, DecidableEq

/-- What stands behind a key. The form of an integer admits texts that denote no number. Numbers
with a fraction and moments in time are told apart from the rest, but their values are not kept. -/
inductive Datum where
  | integer (number : Option Int)
  | fraction
  | moment
  | truth (truth : Bool)
  | text (chars : String)
  | array (items : List Datum)
  | table (origin : Origin) (entries : List (String × Datum))
  | elements (tables : List (List (String × Datum)))

/-- The entries of a table. -/
abbrev Entries := List (String × Datum)

/-- The entry with a key replaced. -/
def replaceEntry (key : String) (datum : Datum) : Entries → Entries
  | [] => [(key, datum)]
  | entry :: rest =>
    if entry.1 = key then (key, datum) :: rest else entry :: replaceEntry key datum rest

/-- A pair with a dotted key taken into a table. -/
def putPair (datum : Datum) : List String → Entries → Option Entries
  | [], _ => none
  | [key], entries =>
    match entries.lookup key with
    | none => some (entries ++ [(key, datum)])
    | some _ => none
  | key :: path, entries =>
    match entries.lookup key with
    | none => (putPair datum path []).map fun inner => entries ++ [(key, .table .dotted inner)]
    | some (.table .dotted inner) =>
      (putPair datum path inner).map fun inner => replaceEntry key (.table .dotted inner) entries
    | some _ => none

/-- The last of the tables under a key changed. -/
def onLast (f : Entries → Option Entries) : List Entries → Option (List Entries)
  | [] => none
  | [last] => (f last).map fun last => [last]
  | first :: rest => (onLast f rest).map fun rest => first :: rest

/-- What a header finds at the end of its path: a change of the last key's datum. -/
abbrev Opening := Option Datum → Option Datum

/-- A table under its own header, unless it is complete already. -/
def openHeaded : Opening
  | none => some (.table .headed [])
  | some (.table .passed entries) => some (.table .headed entries)
  | _ => none

/-- One more table of an array of tables. -/
def openNext : Opening
  | none => some (.elements [[]])
  | some (.elements tables) => some (.elements (tables ++ [[]]))
  | _ => none

/-- A header taken into a table. -/
def openAt (opening : Opening) : List String → Entries → Option Entries
  | [], _ => none
  | [key], entries =>
    (opening (entries.lookup key)).map fun datum => replaceEntry key datum entries
  | key :: path, entries =>
    match entries.lookup key with
    | none =>
      (openAt opening path []).map fun inner => entries ++ [(key, .table .passed inner)]
    | some (.table .inline _) => none
    | some (.table origin inner) =>
      (openAt opening path inner).map fun inner => replaceEntry key (.table origin inner) entries
    | some (.elements tables) =>
      (onLast (openAt opening path) tables).map fun tables =>
        replaceEntry key (.elements tables) entries
    | some _ => none

/-- The entries under a header changed. -/
def onHeader (f : Entries → Option Entries) : List String → Entries → Option Entries
  | [], entries => f entries
  | key :: path, entries =>
    match entries.lookup key with
    | some (.table origin inner) =>
      (onHeader f path inner).map fun inner => replaceEntry key (.table origin inner) entries
    | some (.elements tables) =>
      (onLast (onHeader f path) tables).map fun tables =>
        replaceEntry key (.elements tables) entries
    | _ => none

/-- Pairs taken into a table one after another. -/
def putPairs : List (List String × Datum) → Entries → Option Entries
  | [], entries => some entries
  | (path, datum) :: rest, entries => (putPair datum path entries).bind (putPairs rest)

end ShellSession.Toml
