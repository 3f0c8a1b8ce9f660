import BrokerClient.Toml.Value

/-!
# TOML documents

How the expressions of a document build its tables. A table is opened once by its header; keys with
dots open tables of their own that no header may open again; a table that only exists because a
deeper header names it may still be opened.
-/

namespace BrokerClient.Toml

/-- How a table came to be. -/
inductive Origin where
  /-- On the way to the table of a longer header. -/
  | implied
  /-- By a key with dots. -/
  | dotted
  /-- By its own header. -/
  | header
  deriving DecidableEq, Repr

/-- What a name stands for while a document is read. -/
inductive Node where
  | value (value : Value)
  | table (origin : Origin) (entries : List (String × Node))
  | tables (elements : List (List (String × Node)))

abbrev Entries := List (String × Node)

/-- Replaces what a name stands for, or adds the name at the end. -/
def updateEntry (name : String) (change : Option Node → Option Node) :
    Entries → Option Entries
  | [] => (change none).map fun node => [(name, node)]
  | (k, node) :: r =>
    if k = name then (change (some node)).map fun node => (k, node) :: r
    else (updateEntry name change r).map ((k, node) :: ·)

/-- Changes the last element of a list. -/
def updateLast? (change : α → Option α) : List α → Option (List α)
  | [] => none
  | [a] => (change a).map ([·])
  | a :: b :: r => (updateLast? change (b :: r)).map (a :: ·)

/-- Goes through the tables of a path, adding implied ones, and changes the entries at its end. -/
def atHeader (path : List String) (change : Entries → Option Entries) (entries : Entries) :
    Option Entries :=
  match path with
  | [] => change entries
  | k :: ks =>
    updateEntry k (fun
      | none => (atHeader ks change []).map (.table .implied)
      | some (.table o es) => (atHeader ks change es).map (.table o)
      | some (.tables els) => (updateLast? (atHeader ks change) els).map .tables
      | some (.value _) => none) entries

/-- Opens the table of a header. -/
def openTable (path : List String) (entries : Entries) : Option Entries :=
  match path.getLast? with
  | none => none
  | some k =>
    atHeader path.dropLast (updateEntry k fun
      | none => some (.table .header [])
      | some (.table .implied es) => some (.table .header es)
      | some _ => none) entries

/-- Adds an element to the array of tables of a header. -/
def openElement (path : List String) (entries : Entries) : Option Entries :=
  match path.getLast? with
  | none => none
  | some k =>
    atHeader path.dropLast (updateEntry k fun
      | none => some (.tables [[]])
      | some (.tables els) => some (.tables (els ++ [[]]))
      | some _ => none) entries

/-- Adds a name that must be new. -/
def addEntry (name : String) (v : Value) : Entries → Option Entries :=
  updateEntry name fun
    | none => some (.value v)
    | some _ => none

/-- Goes through the tables of a key with dots and adds a value at its end. A table opened by a
header may not be extended in this way, and the table that takes the value must have been opened in
it. -/
def assignDotted (path : List String) (name : String) (v : Value) (inDotted : Bool)
    (entries : Entries) : Option Entries :=
  match path with
  | [] => if inDotted then addEntry name v entries else none
  | k :: ks =>
    updateEntry k (fun
      | none => (assignDotted ks name v true []).map (.table .dotted)
      | some (.table .header _) => none
      | some (.table o es) => (assignDotted ks name v (o = .dotted) es).map (.table o)
      | some (.tables els) => (updateLast? (assignDotted ks name v false) els).map .tables
      | some (.value _) => none) entries

/-- Adds a value under a key, the last name of which is the entry's. -/
def assign (key : List String) (v : Value) (entries : Entries) : Option Entries :=
  match key.getLast? with
  | none => none
  | some name =>
    if key.length = 1 then addEntry name v entries
    else assignDotted key.dropLast name v false entries

mutual

def Node.toValue : Node → Value
  | .value v => v
  | .table _ es => .table (entriesToValues es)
  | .tables els => .array (elementsToValues els)

def entriesToValues : List (String × Node) → List (String × Value)
  | [] => []
  | (k, n) :: r => (k, n.toValue) :: entriesToValues r

def elementsToValues : List (List (String × Node)) → List Value
  | [] => []
  | es :: r => .table (entriesToValues es) :: elementsToValues r

end

/-- One expression of a document. -/
inductive Expression where
  | table (path : List String)
  | element (path : List String)
  | assignment (key : List String) (value : Value)

/-- A document that is being read: its tables and the header in force. -/
structure Draft where
  entries : Entries
  header : List String

/-- Adds one expression to a document. -/
def Draft.add? (d : Draft) : Expression → Option Draft
  | .table path => (openTable path d.entries).map (⟨·, path⟩)
  | .element path => (openElement path d.entries).map (⟨·, path⟩)
  | .assignment key v => (atHeader d.header (assign key v) d.entries).map (⟨·, d.header⟩)

/-- The entries of the document that expressions make up. -/
def assemble? (expressions : List Expression) : Option (List (String × Value)) :=
  (expressions.foldlM Draft.add? ⟨[], []⟩).map fun d => entriesToValues d.entries

def inlineEntries? (assignments : List (List String × Value)) : Option (List (String × Value)) :=
  (assignments.foldlM (fun es (key, v) => assign key v es) []).map entriesToValues

end BrokerClient.Toml
