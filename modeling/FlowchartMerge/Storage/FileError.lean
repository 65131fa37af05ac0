import FlowchartMerge.Text.Basic

/-!
# Why a file cannot be read or written

The system's errors with their numbers, and the two errors that are found before or
after the system is asked: a path that no file can have, and content that is no text.
-/

set_option autoImplicit false

namespace FlowchartMerge

inductive FileError where
  | notFound
  | notDirectory
  | isDirectory
  | notPermitted
  | nameTooLong
  | nulInPath
  | notText
  | other (message : Text)
  deriving DecidableEq, Repr, Inhabited

namespace FileError

def message : FileError → Text
  | .notFound => "No such file or directory (os error 2)"
  | .notDirectory => "Not a directory (os error 20)"
  | .isDirectory => "Is a directory (os error 21)"
  | .notPermitted => "Permission denied (os error 13)"
  | .nameTooLong => "File name too long (os error 36)"
  | .nulInPath => "file name contained an unexpected NUL byte"
  | .notText => "stream did not contain valid UTF-8"
  | .other message => message

end FileError

def textOfBytes (b : ByteArray) : Except FileError Text :=
  match String.fromUTF8? b with
  | some s => .ok s.toList
  | none => .error .notText

def bytesOfText (t : Text) : ByteArray := (String.ofList t).toUTF8

end FlowchartMerge
