/-!
File paths as texts. Names are separated by `/`; a path that starts with `/` is
absolute. A doubled separator, a `.` after a separator and a separator at the
end name nothing.
-/

namespace CarPairing.Path

def isAbsolute (path : String) : Bool :=
  path.toList.head? = some '/'

/-- `path` as seen from `base`. -/
def join (base path : String) : String :=
  if isAbsolute path then path
  else if base = "" ∨ base.toList.getLast? = some '/' then base ++ path
  else base ++ "/" ++ path

/-- The names between separators, empty ones included. -/
def segments : List Char → List (List Char)
  | [] => [[]]
  | character :: rest =>
      if character = '/' then [] :: segments rest
      else
        match segments rest with
        | [] => [[character]]
        | name :: names => (character :: name) :: names

def unsegment : List (List Char) → List Char
  | [] => []
  | [name] => name
  | name :: rest => name ++ '/' :: unsegment rest

def namesNothing (segment : List Char) : Bool :=
  segment = [] || segment = ['.']

/-- The root or the leading `.`, and the names below it. -/
def split (path : List Char) : List Char × List Char :=
  match path with
  | '/' :: rest => (['/'], rest)
  | ['.'] => (['.'], [])
  | '.' :: '/' :: rest => (['.'], '/' :: rest)
  | rest => ([], rest)

/-- The path without its last name, if it has one. -/
def parent? (path : String) : Option String :=
  let (front, body) := split path.toList
  match (segments body).reverse.dropWhile namesNothing with
  | [] => if front = ['.'] then some "" else none
  | _ :: before =>
      some (String.ofList (front ++ unsegment (before.dropWhile namesNothing).reverse))

end CarPairing.Path
