import CarPairing.Text.Utf8

/-!
What the library needs of a disk: the contents of a file, and a file replaced
as a whole. Any call may fail; what a failed replacement leaves behind is up to
the disk.
-/

namespace CarPairing

inductive DiskError where
  | notFound
  | alreadyExists
  | notDirectory
  | isDirectory
  | nameTooLong
  | embeddedNul
  | notText
  | other (detail : String)
deriving DecidableEq

def DiskError.message : DiskError → String
  | .notFound => "No such file or directory (os error 2)"
  | .alreadyExists => "File exists (os error 17)"
  | .notDirectory => "Not a directory (os error 20)"
  | .isDirectory => "Is a directory (os error 21)"
  | .nameTooLong => "File name too long (os error 36)"
  | .embeddedNul => "file name contained an unexpected NUL byte"
  | .notText => "stream did not contain valid UTF-8"
  | .other detail => detail

class Disk (δ : Type) where
  /-- Whether anything is at a path. -/
  present : δ → String → Bool
  /-- The contents of the file at a path. -/
  read : δ → String → Except DiskError Bytes
  /-- Make a directory and the ones it is in, where they are missing. -/
  makeDirectories : δ → String → Except DiskError Unit × δ
  /-- Make these the contents of a file that only its owner may use, making the
  directories it is in. -/
  replace : δ → String → Bytes → Except DiskError Unit × δ

/-- The text of a file. -/
def Disk.readText {δ : Type} [Disk δ] (disk : δ) (path : String) : Except DiskError String :=
  match Disk.read disk path with
  | .error error => .error error
  | .ok bytes =>
      match Utf8.decode? bytes with
      | some text => .ok text
      | none => .error .notText

end CarPairing
