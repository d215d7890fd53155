import Gatehouse.Json.Value

/-!
# TOML items

The content of a TOML document, and the rules by which its lines build up tables. A
table may be opened by its own header, implied by the header of a table below it, or
made by a dotted key; which of the three it was decides what may still be added to it.
A value in braces is closed: nothing is added to it behind its closing brace.
-/

namespace Gatehouse.Toml

/-- How a table came to be. -/
inductive Origin
  | declared
  | implied
  | dotted
deriving DecidableEq, Repr, Inhabited

/-- An item of a document. The value of a float and of a point in time is not kept. The last table
of a list of tables stands first, because the lines that follow its header add to it. -/
inductive Item
  | text (content : String)
  | integer (value : Int)
  | flag (value : Bool)
  | float
  | moment
  | array (items : List Item)
  | closed (members : List (String × Item))
  | table (origin : Origin) (members : List (String × Item))
  | tables (last : List (String × Item)) (earlier : List (List (String × Item)))
deriving Repr, Inhabited

/-- The members of a table. -/
abbrev Members := List (String × Item)

namespace Members

/-- The item of a name. -/
def find? (name : String) (members : Members) : Option Item := Json.find? name members

/-- Put an item in the place of the one of its name, or behind the others. -/
def put (name : String) (item : Item) : Members → Members
  | [] => [(name, item)]
  | (first, old) :: rest =>
    if first = name then (name, item) :: rest else (first, old) :: put name item rest

/-- Change the table at the end of a path, making the tables that are missing on the way. A dotted
key does not lead through a table that has a header of its own. -/
def descend (dotted : Bool) (change : Origin → Members → Option Members) :
    List String → Origin → Members → Option Members
  | [], origin, members => change origin members
  | name :: path, _, members =>
    match members.find? name with
    | none => do
      let origin : Origin := if dotted then .dotted else .implied
      let inner ← descend dotted change path origin []
      return members.put name (.table origin inner)
    | some (.table origin inner) =>
      if dotted ∧ origin = .declared then none
      else do
        let inner ← descend dotted change path origin inner
        return members.put name (.table origin inner)
    | some (.tables last earlier) => do
      let last ← descend dotted change path .declared last
      return members.put name (.tables last earlier)
    | some _ => none

/-- Add a pair to a table. A dotted key adds only to tables that dotted keys made, and no name is
given twice. -/
def addPair (path : List String) (name : String) (item : Item) (origin : Origin)
    (members : Members) : Option Members :=
  descend true (fun origin members =>
    if (origin == .dotted) == path.isEmpty then none
    else if (members.find? name).isSome then none
    else some (members.put name item)) path origin members

/-- Open a table by its header. Only a table that was implied may be opened later. -/
def openTable (path : List String) (name : String) (root : Members) : Option Members :=
  descend false (fun _ members =>
    match members.find? name with
    | none => some (members.put name (.table .declared []))
    | some (.table .implied inner) => some (members.put name (.table .declared inner))
    | some _ => none) path .declared root

/-- Open the next table of a list of tables. -/
def openNext (path : List String) (name : String) (root : Members) : Option Members :=
  descend false (fun _ members =>
    match members.find? name with
    | none => some (members.put name (.tables [] []))
    | some (.tables last earlier) => some (members.put name (.tables [] (last :: earlier)))
    | some _ => none) path .declared root

/-- The members that pairs between braces make. -/
def ofPairs (pairs : List (List String × String × Item)) : Option Members :=
  pairs.foldlM (fun members (path, name, item) => addPair path name item .declared members) []

end Members

/-- What one line of a document says. -/
inductive Statement
  | pair (path : List String) (name : String) (item : Item)
  | table (path : List String) (name : String)
  | next (path : List String) (name : String)
deriving Repr

/-- A document under construction: the path of the table that pairs are added to, and the root. -/
structure Document where
  place : List String
  root : Members
deriving Repr

namespace Document

/-- One line. -/
def add (document : Document) : Statement → Option Document
  | .pair path name item => do
    let root ← Members.descend false (Members.addPair path name item) document.place .declared
      document.root
    return { document with root := root }
  | .table path name => do return ⟨path ++ [name], ← document.root.openTable path name⟩
  | .next path name => do return ⟨path ++ [name], ← document.root.openNext path name⟩

/-- The root table of the lines of a document. -/
def ofStatements (statements : List Statement) : Option Members :=
  (statements.foldlM add ⟨[], []⟩).map Document.root

end Document

end Gatehouse.Toml
