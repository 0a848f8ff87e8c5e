import CarPairing.Json.Document
import CarPairing.Table

/-!
JSON values: documents whose numerals are finite, whose strings are text, whose
objects have one value per key and whose nesting is bounded.
-/

namespace CarPairing.Json

inductive Number where
  | integer (value : Int)
  | inexact (numeral : Numeral)
deriving DecidableEq

inductive Value where
  | null
  | bool (value : Bool)
  | number (number : Number)
  | string (text : String)
  | array (items : List Value)
  | object (members : List (String × Value))

def Number.ofNumeral? (numeral : Numeral) : Option Number :=
  match numeral.integer? with
  | some value => some (.integer value)
  | none => if numeral.finite then some (.inexact numeral) else none

/-- Containers inside each other that are still read. -/
def depthLimit : Nat := 127

namespace Document

mutual

/-- The value of a document whose containers nest at most `room` deep. -/
def value? (room : Nat) : Document → Option Value
  | .null => some .null
  | .bool value => some (.bool value)
  | .number numeral => (Number.ofNumeral? numeral).map .number
  | .text pieces => (Piece.text? pieces).map .string
  | .array items =>
      match room with
      | 0 => none
      | room + 1 => (values? room items).map .array
  | .object members =>
      match room with
      | 0 => none
      | room + 1 => (members? room members).map fun members => .object (Table.ofWrites members)
termination_by structural document => document

def values? (room : Nat) : List Document → Option (List Value)
  | [] => some []
  | item :: rest =>
      match value? room item, values? room rest with
      | some value, some values => some (value :: values)
      | _, _ => none
termination_by structural items => items

def members? (room : Nat) : List (List Piece × Document) → Option (List (String × Value))
  | [] => some []
  | member :: rest =>
      match member? room member, members? room rest with
      | some value, some values => some (value :: values)
      | _, _ => none
termination_by structural members => members

def member? (room : Nat) : List Piece × Document → Option (String × Value)
  | (key, document) =>
      match Piece.text? key, value? room document with
      | some key, some value => some (key, value)
      | _, _ => none
termination_by structural member => member

end

end Document

namespace Value

def ofText? (text : String) : Option Value :=
  match Document.ofText? text with
  | some document => document.value? depthLimit
  | none => none

def member? (name : String) : Value → Option Value
  | .object members => Table.find? name members
  | _ => none

mutual

/-- `overlay` on `base`: objects are merged member by member, anything else is
replaced. A member that the base lacks is merged into null. -/
def merge : Value → Value → Value
  | base, .object overlay =>
      match base with
      | .object members => .object (mergeMembers members overlay)
      | _ => .object overlay
  | _, overlay => overlay
termination_by structural _ overlay => overlay

def mergeMembers : List (String × Value) → List (String × Value) → List (String × Value)
  | members, [] => members
  | members, member :: rest => mergeMembers (mergeMember members member) rest
termination_by structural _ overlay => overlay

def mergeMember : List (String × Value) → String × Value → List (String × Value)
  | members, (key, overlay) =>
      Table.insert key (merge ((Table.find? key members).getD .null) overlay) members
termination_by structural _ member => member

end

end Value

end CarPairing.Json
