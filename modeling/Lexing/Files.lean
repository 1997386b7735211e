import Lexing.Fault

/-! Files of one directory, and reading them as text. -/
namespace Lexing

structure Files where
  entries : List (String × List UInt8)

namespace Path

/-- The parts of a path between its slashes; empty parts and single dots say nothing. -/
def parts (path : String) : List String :=
  (path.splitOn "/").filter fun part => part != "" && part != "."

/-- How an absolute path begins: with one slash, or exactly two. -/
def root (path : String) : String :=
  match path.toList with
  | '/' :: '/' :: '/' :: _ => "/"
  | '/' :: '/' :: _ => "//"
  | '/' :: _ => "/"
  | _ => ""

/-- The shortest spelling, a dot for the directory itself. -/
def normal (path : String) : String :=
  let text := root path ++ "/".intercalate (parts path)
  if text.isEmpty then "." else text

end Path

namespace Files

def empty : Files := ⟨[]⟩

def find? (files : Files) (name : String) : Option (List UInt8) := files.entries.lookup name

/-- The name of the file that a path leads to, whether or not there is one. Nothing is known outside the
directory, and it has no directories of its own. -/
def locate (files : Files) (path : String) : Except FileFault String :=
  let name := Path.normal path
  if name.toList.contains '\x00' then .error .nullInPath
  else if (Path.parts path).all (· == "..") then .error (.isDirectory name)
  else match Path.root path, Path.parts path with
    | "", [_] => .ok name
    | "", first :: _ => .error (if (files.find? first).isSome then .notDirectory name else .missing name)
    | _, _ => .error (.missing name)

/-- Writes a file whole, over what it held. -/
def write (files : Files) (path : String) (bytes : List UInt8) : Except FileFault Files := do
  let name ← files.locate path
  return ⟨(name, bytes) :: files.entries.filter (·.1 != name)⟩

def fetch (files : Files) (path : String) : Except FileFault (List UInt8) := do
  let name ← files.locate path
  match files.find? name with
  | some bytes => return bytes
  | none => throw (.missing name)

/-- The encoding a setting names; nothing names the usual one. -/
def encodingOf : Value → Except FileFault Text.Encoding
  | .null => .ok .utf8
  | .str name =>
    match Text.Encoding.ofName? name with
    | some encoding => .ok encoding
    | none => .error (.unknownEncoding name)
  | v => .error (.encodingKind v.kind)

/-- A value that cannot name an encoding is refused before the file is opened, an unknown name after. -/
def readText (files : Files) (path : String) (encoding : Value) : Except FileFault String := do
  if let .error (.encodingKind kind) := encodingOf encoding then throw (.encodingKind kind)
  let bytes ← files.fetch path
  match (← encodingOf encoding).decodeChars bytes with
  | .ok chars => return String.ofList (Text.unifyNewlines chars)
  | .error cause => throw (.undecodable cause)

end Files

end Lexing
