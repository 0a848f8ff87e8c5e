import CarPairing.Bytes
import CarPairing.Json.Numeral

/-!
The tokens of a JSON text. Characters are taken one at a time; a word, a numeral
and a string are collected until the character that ends them.
-/

namespace CarPairing.Json

/-- What a string is written with: characters, and UTF-16 units in hexadecimal.
Whether the units pair up is not asked before the text is needed. -/
inductive Piece where
  | char (character : Char)
  | unit (code : Nat)
deriving DecidableEq

inductive Token where
  | openArray
  | closeArray
  | openObject
  | closeObject
  | comma
  | colon
  | null
  | bool (value : Bool)
  | number (numeral : Numeral)
  | text (pieces : List Piece)
deriving DecidableEq

namespace Token

/-- What is being collected, last character first. -/
inductive Collecting where
  | nothing
  | word (letters : List Char)
  | numeral (characters : List Char)
  | text (pieces : List Piece)
  | escape (pieces : List Piece)
  | unit (pieces : List Piece) (digits : List Nat)

/-- Tokens so far, last first, and what is being collected. -/
structure Progress where
  tokens : List Token
  collecting : Collecting

def isBlank (character : Char) : Bool :=
  character == ' ' || character == '\n' || character == '\t' || character == '\r'

def isLetter (character : Char) : Bool :=
  'a' ≤ character && character ≤ 'z'

def punctuation? : Char → Option Token
  | '[' => some .openArray
  | ']' => some .closeArray
  | '\x7b' => some .openObject
  | '\x7d' => some .closeObject
  | ',' => some .comma
  | ':' => some .colon
  | _ => none

/-- The character after the backslash, unless it opens a unit. -/
def escaped? : Char → Option Char
  | '"' => some '"'
  | '\\' => some '\\'
  | '/' => some '/'
  | 'b' => some '\x08'
  | 'f' => some '\x0c'
  | 'n' => some '\n'
  | 'r' => some '\r'
  | 't' => some '\t'
  | _ => none

def word? (letters : List Char) : Option Token :=
  if letters = ['n', 'u', 'l', 'l'] then some .null
  else if letters = ['t', 'r', 'u', 'e'] then some (.bool true)
  else if letters = ['f', 'a', 'l', 's', 'e'] then some (.bool false)
  else none

/-- A character with nothing being collected. -/
def start? (tokens : List Token) (character : Char) : Option Progress :=
  if isBlank character then some ⟨tokens, .nothing⟩
  else if character = '"' then some ⟨tokens, .text []⟩
  else if isLetter character then some ⟨tokens, .word [character]⟩
  else if Numeral.isPart character then some ⟨tokens, .numeral [character]⟩
  else
    match punctuation? character with
    | some token => some ⟨token :: tokens, .nothing⟩
    | none => none

/-- Ends a word or a numeral; a string has to end by itself. -/
def finish? (progress : Progress) : Option (List Token) :=
  match progress.collecting with
  | .nothing => some progress.tokens
  | .word letters =>
      match word? letters.reverse with
      | some token => some (token :: progress.tokens)
      | none => none
  | .numeral characters =>
      match Numeral.ofChars? characters.reverse with
      | some numeral => some (.number numeral :: progress.tokens)
      | none => none
  | _ => none

def textStep? (tokens : List Token) (pieces : List Piece) (character : Char) : Option Progress :=
  if character = '"' then some ⟨.text pieces.reverse :: tokens, .nothing⟩
  else if character = '\\' then some ⟨tokens, .escape pieces⟩
  else if character.toNat < 0x20 then none
  else some ⟨tokens, .text (.char character :: pieces)⟩

def escapeStep? (tokens : List Token) (pieces : List Piece) (character : Char) : Option Progress :=
  if character = 'u' then some ⟨tokens, .unit pieces []⟩
  else
    match escaped? character with
    | some meant => some ⟨tokens, .text (.char meant :: pieces)⟩
    | none => none

def unitStep? (tokens : List Token) (pieces : List Piece) (digits : List Nat) (character : Char) :
    Option Progress :=
  match Hex.value? character with
  | none => none
  | some digit =>
      match digits with
      | [third, second, first] =>
          let code := ((first * 16 + second) * 16 + third) * 16 + digit
          some ⟨tokens, .text (.unit code :: pieces)⟩
      | _ => some ⟨tokens, .unit pieces (digit :: digits)⟩

def step? (progress : Progress) (character : Char) : Option Progress :=
  match progress.collecting with
  | .nothing => start? progress.tokens character
  | .word letters =>
      if isLetter character then some ⟨progress.tokens, .word (character :: letters)⟩
      else
        match finish? progress with
        | some tokens => start? tokens character
        | none => none
  | .numeral characters =>
      if Numeral.isPart character then some ⟨progress.tokens, .numeral (character :: characters)⟩
      else
        match finish? progress with
        | some tokens => start? tokens character
        | none => none
  | .text pieces => textStep? progress.tokens pieces character
  | .escape pieces => escapeStep? progress.tokens pieces character
  | .unit pieces digits => unitStep? progress.tokens pieces digits character

def steps? : Progress → List Char → Option Progress
  | progress, [] => some progress
  | progress, character :: rest =>
      match step? progress character with
      | some next => steps? next rest
      | none => none

/-- The tokens of a text, if it has no other character. -/
def ofChars? (characters : List Char) : Option (List Token) :=
  match steps? ⟨[], .nothing⟩ characters with
  | some progress =>
      match finish? progress with
      | some tokens => some tokens.reverse
      | none => none
  | none => none

end Token

end CarPairing.Json
