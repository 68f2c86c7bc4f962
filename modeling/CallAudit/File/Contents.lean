import CallAudit.Failure

/-!
# Contents of files

What is found at a path, and the bytes of a file as text and as lines.
-/

namespace CallAudit

/-- What is found at a path. -/
inductive FileView where
  | file (bytes : List UInt8)
  | unreadable (error : OpenError)

namespace Bytes

/-- The text that bytes encode in UTF-8. -/
def text? (bytes : List UInt8) : Option String := String.fromUTF8? ⟨bytes.toArray⟩

/-- The lines of some bytes. A line ends with a line feed, a carriage return or both; the last one need
    not, and nothing after the last end is no line. -/
def linesFrom (line : List UInt8) : List UInt8 → List (List UInt8)
  | [] => if line.isEmpty then [] else [line.reverse]
  | 10 :: rest => line.reverse :: linesFrom [] rest
  | 13 :: 10 :: rest => line.reverse :: linesFrom [] rest
  | 13 :: rest => line.reverse :: linesFrom [] rest
  | byte :: rest => linesFrom (byte :: line) rest

def lines (bytes : List UInt8) : List (List UInt8) := linesFrom [] bytes

/-- The blanks of ASCII: spaces, tabs, both vertical ones, and ends of lines. -/
def isBlank (byte : UInt8) : Bool := byte == 32 || (9 ≤ byte && byte ≤ 13)

/-- The bytes without the blanks around them. -/
def stripped (bytes : List UInt8) : List UInt8 :=
  ((bytes.dropWhile isBlank).reverse.dropWhile isBlank).reverse

end Bytes

end CallAudit
