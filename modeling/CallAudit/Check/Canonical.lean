import CallAudit.Check.Config
import CallAudit.Digest.Md5
import CallAudit.Failure
import CallAudit.Json.Writer
import CallAudit.Value.Ordering

/-!
# Canonical configurations

A text that configurations differing only in order have in common, and the code derived from it. The
warning code is left out, because it is what the text is for.
-/

namespace CallAudit.Config

/-- The names in a list of methods as sorted texts; anything else as it is. -/
def canonicalMethods : Datum → Datum
  | .list names => .list ((sortTexts (names.map Datum.plainText)).map Datum.text)
  | methods => methods

/-- The targets in ascending order. -/
def sortedTargets (targets : Datum) : Except Failure (List Datum) :=
  match targets.elements? with
  | none => .error .notIterable
  | some elements =>
    match Datum.sort? elements with
    | some sorted => .ok sorted
    | none => .error .notComparable

def canonicalDatum (config : Config) : Except Failure Datum :=
  (sortedTargets config.targets).map fun targets =>
    .object
      [("name", config.name), ("description", config.description),
        ("warning_symbol", config.warningSymbol), ("targets", .list targets),
        ("methods", canonicalMethods config.methods)]

/-- The canonical text of a configuration. -/
def canonicalText (config : Config) : Except Failure String :=
  match config.canonicalDatum with
  | .error failure => .error failure
  | .ok d =>
    match Json.write? d with
    | some text => .ok text
    | none => .error .notWritable

/-- The number that bytes are, the first byte the highest. -/
def bigEndian (bytes : List UInt8) : Nat := bytes.foldl (fun n byte => n * 256 + byte.toNat) 0

/-- The lowest 63 bits of the first eight bytes of the digest of a text. -/
def codeOfText (text : String) : Nat :=
  bigEndian ((Md5.digest text.toUTF8.toList).take 8) % 0x8000000000000000

/-- The code of a configuration that has none of its own. -/
def derivedCode (config : Config) : Except Failure Nat := config.canonicalText.map codeOfText

end CallAudit.Config
