import RuleOutline.Toml.Value

/-! Tables while a file is being read. A table can be added to later only in the ways that its
standing allows. -/
namespace RuleOutline.Toml

/-- How a table came to be. -/
inductive Standing where
  /-- It has a header of its own, or braces. -/
  | headed
  /-- A longer header leads through it. -/
  | implied
  /-- A dotted key leads through it. -/
  | dotted
  deriving DecidableEq

/-- A finished value, a table, or a list of tables that have headers. -/
inductive Node where
  | leaf (value : Value)
  | table (standing : Standing) (entries : List (String × Node))
  | tables (members : List Node)

/-- Puts an entry in place of the one with the same name, or at the end. -/
def putEntry {α : Type} (name : String) (value : α) : List (String × α) → List (String × α)
  | [] => [(name, value)]
  | entry :: entries =>
    if entry.1 = name then (name, value) :: entries else entry :: putEntry name value entries

/-- Changes the last member of a list, if it has one. -/
def changeLast? {α : Type} (f : α → Option α) : List α → Option (List α)
  | [] => none
  | [x] => (f x).map ([·])
  | x :: xs => (changeLast? f xs).map (x :: ·)

namespace Node

/-- A dotted key may add to the table. -/
def isDotted : Node → Bool
  | .table .dotted _ => true
  | _ => false

/-- Adds an entry by a dotted key. The tables it leads through are made if they are missing.
They must not have headers, and the last of them must be one of dotted keys. -/
def insert? (name : String) (value : Value) : List String → Node → Option Node
  | [], .table standing entries =>
    if (entries.lookup name).isSome then none
    else some (.table standing (entries ++ [(name, .leaf value)]))
  | step :: steps, .table standing entries =>
    let child := match entries.lookup step with
      | none => insert? name value steps (.table .dotted [])
      | some (.tables members) =>
        if steps.isEmpty then none
        else (changeLast? (insert? name value steps) members).map .tables
      | some (.table .headed _) => none
      | some child =>
        if steps.isEmpty && !child.isDotted then none else insert? name value steps child
    child.map fun child => .table standing (putEntry step child entries)
  | _, _ => none

/-- Changes the table that a header leads to. The tables on the way are made if they are
missing; where a list of tables is met the way goes on in its last one. -/
def change? (f : Node → Option Node) : List String → Node → Option Node
  | [], node => f node
  | step :: steps, .table standing entries =>
    let child := match entries.lookup step with
      | none => change? f steps (.table .implied [])
      | some (.tables members) => (changeLast? (change? f steps) members).map .tables
      | some child => change? f steps child
    child.map fun child => .table standing (putEntry step child entries)
  | _, _ => none

/-- Opens a table by its header. Only a table that other headers led through may be there. It
then takes its place behind the entries that are there already. -/
def openTable? (name : String) : Node → Option Node
  | .table standing entries =>
    match entries.lookup name with
    | none => some (.table standing (entries ++ [(name, .table .headed [])]))
    | some (.table .implied inner) =>
      let others := entries.filter (·.1 != name)
      some (.table standing (others ++ [(name, .table .headed inner)]))
    | some _ => none
  | _ => none

/-- Opens the next table of a list by its header. -/
def openNext? (name : String) : Node → Option Node
  | .table standing entries =>
    match entries.lookup name with
    | none => some (.table standing (entries ++ [(name, .tables [.table .headed []])]))
    | some (.tables members) =>
      some (.table standing (putEntry name (.tables (members ++ [.table .headed []])) entries))
    | some _ => none
  | _ => none

mutual

/-- The finished value. -/
def value : Node → Value
  | .leaf value => value
  | .table _ entries => .table (entryValues entries)
  | .tables members => .list (values members)

/-- The finished values of several nodes. -/
def values : List Node → List Value
  | [] => []
  | node :: nodes => node.value :: values nodes

/-- The finished values of named nodes. -/
def entryValues : List (String × Node) → List (String × Value)
  | [] => []
  | (name, node) :: entries => (name, node.value) :: entryValues entries

end

end Node

end RuleOutline.Toml
