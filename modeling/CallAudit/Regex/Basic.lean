/-!
# Regular expressions

The terms of the pattern language: characters and sets, anchors, repetition in three manners, groups,
lookaround, references to groups and conditions on them.
-/

namespace CallAudit

/-- The settings that letters such as `i` turn on within a pattern. -/
structure PatternFlags where
  template : Bool := false
  ignoreCase : Bool := false
  multiline : Bool := false
  dotAll : Bool := false
  verbose : Bool := false
  ascii : Bool := false
  unicode : Bool := false
deriving DecidableEq, Repr, Inhabited

namespace PatternFlags

def union (a b : PatternFlags) : PatternFlags :=
  ⟨a.template || b.template, a.ignoreCase || b.ignoreCase, a.multiline || b.multiline,
    a.dotAll || b.dotAll, a.verbose || b.verbose, a.ascii || b.ascii, a.unicode || b.unicode⟩

def overlaps (a b : PatternFlags) : Bool :=
  (a.template && b.template) || (a.ignoreCase && b.ignoreCase) || (a.multiline && b.multiline)
    || (a.dotAll && b.dotAll) || (a.verbose && b.verbose) || (a.ascii && b.ascii)
    || (a.unicode && b.unicode)

/-- The settings inside a group that turns some on and others off. Naming a character repertoire
    replaces the one in force. -/
def within (outer on off : PatternFlags) : PatternFlags :=
  { template := outer.template
    ignoreCase := (outer.ignoreCase || on.ignoreCase) && !off.ignoreCase
    multiline := (outer.multiline || on.multiline) && !off.multiline
    dotAll := (outer.dotAll || on.dotAll) && !off.dotAll
    verbose := (outer.verbose || on.verbose) && !off.verbose
    ascii := if on.ascii || on.unicode then on.ascii else outer.ascii
    unicode := if on.ascii || on.unicode then on.unicode else outer.unicode }

end PatternFlags

namespace Regex

inductive CharClass where
  | digit
  | space
  | word
deriving DecidableEq, Repr

/-- A member of a character set. Characters are given by code, which an escape may place outside of
    the codes that texts can hold. -/
inductive SetItem where
  | single (code : Nat)
  | range (first last : Nat)
  | named (which : CharClass) (negated : Bool)
deriving DecidableEq, Repr

inductive Anchor where
  | textStart
  | textEnd
  | lineStart
  | lineEnd
  | wordBoundary
  | noWordBoundary
deriving DecidableEq, Repr

/-- Which of several counts of a repetition is tried first; a possessive one is never taken back. -/
inductive Manner where
  | greedy
  | lazy
  | possessive
deriving DecidableEq, Repr

inductive Term where
  | any
  | set (negated : Bool) (items : List SetItem)
  | anchor (which : Anchor)
  | sequence (parts : List Term)
  | choice (branches : List Term)
  | group (index : Option Nat) (on off : PatternFlags) (body : Term)
  | atomic (body : Term)
  | repeated (low : Nat) (high : Option Nat) (manner : Manner) (body : Term)
  | ahead (negated : Bool) (body : Term)
  | behind (width : Nat) (negated : Bool) (body : Term)
  | reference (index : Nat)
  | conditional (index : Nat) (yes no : Term)
deriving Repr, Inhabited

/-- Why a text is no pattern. -/
inductive PatternError where
  | malformed
  /-- A repetition is counted higher than any text is long. -/
  | countTooLarge
  /-- The settings name two repertoires of characters. -/
  | repertoireConflict
deriving DecidableEq, Repr

/-- One character as a term. -/
def Term.char (code : Nat) : Term := .set false [.single code]

end Regex

/-- A pattern with its text and the settings that hold throughout it. -/
structure Regex where
  source : String
  flags : PatternFlags
  body : Regex.Term
deriving Repr, Inhabited

end CallAudit
