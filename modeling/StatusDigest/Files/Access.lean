import StatusDigest.Dump.Source
import StatusDigest.Text.Utf8

/-!
# Access to files

The program asks for files by their paths, and whoever runs it answers: the operating system when
it runs for a user, a `Tree` when it is looked at from outside. A file that can be opened is a
source of octets, which may still fail while it is read; a file that cannot be opened has a
reason.
-/

namespace StatusDigest.Files

open Dump

/-- How a file is opened: its octets, or the reason why it cannot be opened. -/
abbrev Opener (m : Type → Type) := String → m (Except String Source)

/-- The reason why octets that are not UTF-8 are no text. -/
def notText : String :=
  "stream did not contain valid UTF-8"

/-- The text of a source, or the reason why it has none. -/
def textOf (source : Source) : Except String String :=
  match source.failure with
  | some reason => .error reason
  | none =>
    match Text.Utf8.decode? source.bytes with
    | some text => .ok (String.ofList text)
    | none => .error notText

end StatusDigest.Files
