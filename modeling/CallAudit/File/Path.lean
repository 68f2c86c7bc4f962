/-!
# Paths

The shortest spelling of a path: no doubled slashes, no single dots and no slash at the end. Steps
upwards stay, since a link may lie before them.
-/

namespace CallAudit.Path

/-- The parts of a text between slashes. -/
def splitSlashes : List Char → List (List Char)
  | [] => [[]]
  | c :: rest =>
    if c == '/' then [] :: splitSlashes rest
    else
      match splitSlashes rest with
      | part :: parts => (c :: part) :: parts
      | [] => [[c]]

/-- The slashes that a normal path starts with: two are kept as they are, and any other number is one. -/
def root (path : List Char) : List Char :=
  match (path.takeWhile (· == '/')).length with
  | 0 => []
  | 2 => ['/', '/']
  | _ => ['/']

def segments (path : List Char) : List (List Char) :=
  (splitSlashes path).filter fun part => !part.isEmpty && part != ['.']

def joinSegments : List (List Char) → List Char
  | [] => []
  | [part] => part
  | part :: parts => part ++ '/' :: joinSegments parts

/-- The normal spelling of a path. The empty path is the current directory. -/
def normalize (path : String) : String :=
  let normal := root path.toList ++ joinSegments (segments path.toList)
  if normal.isEmpty then "." else String.ofList normal

/-- No file has a name with a null character in it. -/
def canExist (path : String) : Bool := !path.toList.contains (Char.ofNat 0)

end CallAudit.Path
