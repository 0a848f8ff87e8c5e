import CarPairing.Text.Unprintable

/-!
Texts, bytes and optional values as they stand in the one-line descriptions of
records. A quoted text shows every character that would not show by itself.
-/

namespace CarPairing.Quoted

/-- One character between quotes. -/
def escape (character : Char) : List Char :=
  match character with
  | '\x00' => ['\\', '0']
  | '\t' => ['\\', 't']
  | '\r' => ['\\', 'r']
  | '\n' => ['\\', 'n']
  | '\\' => ['\\', '\\']
  | '"' => ['\\', '"']
  | _ =>
      if Unprintable.contains character then
        ['\\', 'u', '\x7b'] ++ Nat.toDigits 16 character.toNat ++ ['\x7d']
      else [character]

def text (value : String) : String :=
  String.ofList ('"' :: value.toList.flatMap escape ++ ['"'])

/-- Items between square brackets. -/
def list (items : List String) : String :=
  "[" ++ String.intercalate ", " items ++ "]"

def bytes (value : List UInt8) : String :=
  list (value.map toString)

def option (show? : α → String) : Option α → String
  | none => "None"
  | some value => "Some(" ++ show? value ++ ")"

/-- A record by its name and its fields in order. -/
def record (name : String) (fields : List (String × String)) : String :=
  name ++ " \x7b " ++ String.intercalate ", " (fields.map fun (label, value) => label ++ ": " ++ value)
    ++ " \x7d"

/-- A record of which only some fields are told. -/
def openRecord (name : String) (fields : List (String × String)) : String :=
  name ++ " \x7b " ++
    String.intercalate ", " ((fields.map fun (label, value) => label ++ ": " ++ value) ++ [".."])
    ++ " \x7d"

end CarPairing.Quoted
