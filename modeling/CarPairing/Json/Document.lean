import CarPairing.Json.Token

/-!
JSON texts as trees, before anything is asked of numerals, strings and keys. A
reader that skips a part of a document has seen no more of it than this.
-/

namespace CarPairing.Json

inductive Document where
  | null
  | bool (value : Bool)
  | number (numeral : Numeral)
  | text (pieces : List Piece)
  | array (items : List Document)
  | object (members : List (List Piece × Document))

namespace Piece

/-- The character of a high and a low surrogate. -/
def paired (high low : Nat) : Char :=
  Char.ofNat (0x10000 + (high - 0xd800) * 0x400 + (low - 0xdc00))

def isHigh (code : Nat) : Bool :=
  0xd800 ≤ code && code < 0xdc00

def isLow (code : Nat) : Bool :=
  0xdc00 ≤ code && code < 0xe000

/-- The characters meant, surrogates in pairs only. -/
def chars? : List Piece → Option (List Char)
  | [] => some []
  | .char character :: rest => (chars? rest).map (character :: ·)
  | .unit code :: rest =>
      if isHigh code then
        match rest with
        | .unit low :: rest =>
            if isLow low then (chars? rest).map (paired code low :: ·) else none
        | _ => none
      else if isLow code then none
      else (chars? rest).map (Char.ofNat code :: ·)

def text? (pieces : List Piece) : Option String :=
  (chars? pieces).map String.ofList

end Piece

namespace Document

/-- A container that is not closed yet, with what came before, last first. -/
inductive Frame where
  | array (before : List Document)
  | member (before : List (List Piece × Document)) (key : List Piece)

/-- What has to come next, inside which open containers. -/
inductive Reading where
  | value (outer : List Frame)
  | itemOrClose (outer : List Frame)
  | keyOrClose (outer : List Frame)
  | key (before : List (List Piece × Document)) (outer : List Frame)
  | colon (before : List (List Piece × Document)) (key : List Piece) (outer : List Frame)
  | after (value : Document) (outer : List Frame)

def begin? (outer : List Frame) : Token → Option Reading
  | .null => some (.after .null outer)
  | .bool value => some (.after (.bool value) outer)
  | .number numeral => some (.after (.number numeral) outer)
  | .text pieces => some (.after (.text pieces) outer)
  | .openArray => some (.itemOrClose outer)
  | .openObject => some (.keyOrClose outer)
  | _ => none

def continue? (value : Document) : List Frame → Token → Option Reading
  | .array before :: outer, .comma => some (.value (.array (value :: before) :: outer))
  | .array before :: outer, .closeArray =>
      some (.after (.array (value :: before).reverse) outer)
  | .member before key :: outer, .comma => some (.key ((key, value) :: before) outer)
  | .member before key :: outer, .closeObject =>
      some (.after (.object ((key, value) :: before).reverse) outer)
  | _, _ => none

def step? : Reading → Token → Option Reading
  | .value outer, token => begin? outer token
  | .itemOrClose outer, .closeArray => some (.after (.array []) outer)
  | .itemOrClose outer, token => begin? (.array [] :: outer) token
  | .keyOrClose outer, .closeObject => some (.after (.object []) outer)
  | .keyOrClose outer, .text key => some (.colon [] key outer)
  | .key before outer, .text key => some (.colon before key outer)
  | .colon before key outer, .colon => some (.value (.member before key :: outer))
  | .after value outer, token => continue? value outer token
  | _, _ => none

def steps? : Reading → List Token → Option Reading
  | reading, [] => some reading
  | reading, token :: rest =>
      match step? reading token with
      | some next => steps? next rest
      | none => none

/-- The document of a text that is one value and nothing else. -/
def ofText? (text : String) : Option Document :=
  match Token.ofChars? text.toList with
  | none => none
  | some tokens =>
      match steps? (.value []) tokens with
      | some (.after value []) => some value
      | _ => none

end Document

end CarPairing.Json
