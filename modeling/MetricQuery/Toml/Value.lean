/-
  MetricQuery.Toml.Value
  ──────────────────────
  **TOML VALUES AND HOW TABLES ARE BUILT.**

  A document is a sequence of statements: keys with values, and headers that say
  which table the following keys belong to.  A table may be named in several
  ways, but it is defined only once; each table remembers how it came to be, and
  that decides who may still add to it.

    • `Toml`             — values,
    • `Statement`        — the statements of a document,
    • `Toml.ofStatements?` — the table of a document, if no rule is broken.
-/
namespace MetricQuery

/-! ## §1. Values. -/

/-- How a table came to be. -/
inductive TableMark where
  /-- It has a header of its own, or is the document itself. -/
  | header
  /-- A header inside it implies it. -/
  | implied
  /-- A dotted key implies it. -/
  | dotted
  /-- It was written between braces, and is complete. -/
  | inline
  deriving DecidableEq, Repr

/-- A TOML value.  Dates and times are recognised but hold nothing that is ever read. -/
inductive Toml where
  | string (s : String)
  | integer (n : Int)
  | float (x : Float)
  | bool (b : Bool)
  | datetime
  | array (items : List Toml)
  | table (mark : TableMark) (fields : List (String × Toml))
  /-- Tables that share a header, in order. -/
  | tables (all : List (List (String × Toml)))

/-- A table under construction. -/
structure TomlTable where
  mark : TableMark
  fields : List (String × Toml)

namespace TomlTable

/-- The finished table as a value. -/
def toValue (t : TomlTable) : Toml :=
  .table t.mark t.fields

/-- The table with a field set anew. -/
def set (t : TomlTable) (key : String) (v : Toml) : TomlTable :=
  { t with fields := t.fields.filter (fun f => f.1 != key) ++ [(key, v)] }

/-! ## §2. Rules for adding. -/

/-- A change of the table at the end of a path.  Tables that are missing on the way are made with
the mark `make`, and those that are there have to satisfy `enter`.  Of tables that share a header
the last one is meant. -/
def modifyAt? (make : TableMark) (enter : TableMark → Bool)
    (change : TomlTable → Option TomlTable) : List String → TomlTable → Option TomlTable
  | [], t => change t
  | key :: path, t =>
      match t.fields.lookup key with
      | none => (modifyAt? make enter change path ⟨make, []⟩).map fun u => t.set key u.toValue
      | some (.table mark fields) =>
          if enter mark then
            (modifyAt? make enter change path ⟨mark, fields⟩).map fun u => t.set key u.toValue
          else none
      | some (.tables all) =>
          -- Keys are added to the last of them.
          match all.reverse with
          | [] => none
          | fields :: before =>
              (modifyAt? make enter change path ⟨.header, fields⟩).map fun u =>
                t.set key (.tables (before.reverse ++ [u.fields]))
      | some _ => none

/-- Headers lead through every table that is not complete. -/
def throughHeaders (change : TomlTable → Option TomlTable) :
    List String → TomlTable → Option TomlTable :=
  modifyAt? .implied (fun mark => mark != .inline) change

/-- A key with a value.  A dotted key leads through tables without a header of their own, and adds
only to a table that dotted keys have made. -/
def insert? (path : List String) (key : String) (v : Toml) (t : TomlTable) : Option TomlTable :=
  modifyAt? .dotted (fun mark => mark == .implied || mark == .dotted)
    (fun t =>
      if (path.isEmpty || t.mark == .dotted) && (t.fields.lookup key).isNone then
        some (t.set key v)
      else none)
    path t

/-- A table's own header, once.  An implied table may still get one. -/
def openTable? (key : String) (t : TomlTable) : Option TomlTable :=
  match t.fields.lookup key with
  | none => some (t.set key (.table .header []))
  | some (.table .implied fields) => some (t.set key (.table .header fields))
  | some _ => none

/-- One more table under a shared header. -/
def openItem? (key : String) (t : TomlTable) : Option TomlTable :=
  match t.fields.lookup key with
  | none => some (t.set key (.tables [[]]))
  | some (.tables all) => some (t.set key (.tables (all ++ [[]])))
  | some _ => none

end TomlTable

/-- The table of keys between braces. -/
def inlineTable? (entries : List ((List String × String) × Toml)) : Option Toml :=
  (entries.foldlM (fun t e => TomlTable.insert? e.1.1 e.1.2 e.2 t) ⟨.inline, []⟩).map
    TomlTable.toValue

/-! ## §3. Documents. -/

/-- A statement of a document.  Keys are given by the path that leads to them and their own
name. -/
inductive Statement where
  | blank
  | assign (path : List String) (key : String) (value : Toml)
  | header (path : List String) (key : String)
  | itemHeader (path : List String) (key : String)

/-- The document so far, and the table that keys are added to. -/
structure Drafting where
  root : TomlTable
  current : List String

/-- The document after a statement. -/
def Drafting.add? (d : Drafting) : Statement → Option Drafting
  | .blank => some d
  | .assign path key v =>
      (TomlTable.throughHeaders (TomlTable.insert? path key v) d.current d.root).map
        fun root => { d with root }
  | .header path key =>
      (TomlTable.throughHeaders (TomlTable.openTable? key) path d.root).map
        fun root => ⟨root, path ++ [key]⟩
  | .itemHeader path key =>
      (TomlTable.throughHeaders (TomlTable.openItem? key) path d.root).map
        fun root => ⟨root, path ++ [key]⟩

/-- **The fields of a document,** if no table is defined twice and no key is repeated. -/
def Toml.ofStatements? (statements : List Statement) : Option (List (String × Toml)) :=
  (statements.foldlM Drafting.add? ⟨⟨.header, []⟩, []⟩).map fun d => d.root.fields

end MetricQuery
