import CarPairing.Bytes
import CarPairing.Json.Value

/-!
Values as text, on one line or indented by two blanks a level. Only what has to
be escaped is escaped.
-/

namespace CarPairing.Json

/-- Everything on one line, or one item a line at some depth. -/
inductive Layout where
  | compact
  | indented (depth : Nat)

namespace Layout

def deeper : Layout → Layout
  | .compact => .compact
  | .indented depth => .indented (depth + 1)

def lineBreak : Layout → List Char
  | .compact => []
  | .indented depth => '\n' :: List.replicate (2 * depth) ' '

def colon : Layout → List Char
  | .compact => [':']
  | .indented _ => [':', ' ']

/-- Items between brackets; without items nothing stands between them. -/
def enclose (layout : Layout) (left right : Char) : List (List Char) → List Char
  | [] => [left, right]
  | items =>
      left :: List.intercalate [','] (items.map (layout.deeper.lineBreak ++ ·)) ++
        layout.lineBreak ++ [right]

end Layout

/-- A character inside a string. -/
def escape (character : Char) : List Char :=
  match character with
  | '"' => ['\\', '"']
  | '\\' => ['\\', '\\']
  | '\x08' => ['\\', 'b']
  | '\x0c' => ['\\', 'f']
  | '\n' => ['\\', 'n']
  | '\r' => ['\\', 'r']
  | '\t' => ['\\', 't']
  | _ =>
      if character.toNat < 0x20 then
        ['\\', 'u', '0', '0', Hex.digit (character.toNat / 16), Hex.digit (character.toNat % 16)]
      else [character]

def quote (text : String) : List Char :=
  '"' :: text.toList.flatMap escape ++ ['"']

def Number.print : Number → List Char
  | .integer value => (toString value).toList
  | .inexact numeral => numeral.toChars

namespace Value

mutual

def print (layout : Layout) : Value → List Char
  | .null => ['n', 'u', 'l', 'l']
  | .bool true => ['t', 'r', 'u', 'e']
  | .bool false => ['f', 'a', 'l', 's', 'e']
  | .number amount => amount.print
  | .string text => quote text
  | .array items => layout.enclose '[' ']' (printItems layout.deeper items)
  | .object members => layout.enclose '\x7b' '\x7d' (printMembers layout.deeper members)
termination_by structural value => value

def printItems (layout : Layout) : List Value → List (List Char)
  | [] => []
  | item :: rest => print layout item :: printItems layout rest
termination_by structural items => items

def printMembers (layout : Layout) : List (String × Value) → List (List Char)
  | [] => []
  | member :: rest => printMember layout member :: printMembers layout rest
termination_by structural members => members

def printMember (layout : Layout) : String × Value → List Char
  | (key, value) => quote key ++ layout.colon ++ print layout value
termination_by structural member => member

end

def compact (value : Value) : String :=
  String.ofList (value.print .compact)

def pretty (value : Value) : String :=
  String.ofList (value.print (.indented 0))

end Value

end CarPairing.Json
