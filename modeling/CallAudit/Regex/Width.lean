import CallAudit.Regex.Basic

/-!
# Width of a pattern

The least and the greatest number of characters that a term can take up. What is looked for behind a
position must have one width.
-/

namespace CallAudit.Regex

structure Width where
  least : Nat
  most : Nat
deriving DecidableEq, Repr, Inhabited

namespace Width

/-- Stands for no bound, and caps all widths. -/
def unbounded : Nat := 0x10000000000000000

def capped (least most : Nat) : Width := ⟨min least unbounded, min most unbounded⟩

def add (a b : Width) : Width := ⟨a.least + b.least, a.most + b.most⟩

def or (a b : Width) : Width := ⟨min a.least b.least, max a.most b.most⟩

/-- An unbounded number of repetitions of a term that takes up nothing takes up nothing. -/
def times (w : Width) (low : Nat) : Option Nat → Width
  | some high => ⟨w.least * low, w.most * high⟩
  | none => ⟨w.least * low, if w.most = 0 then 0 else unbounded⟩

end Width

mutual

/-- The width of a term, given those of the groups. -/
def Term.width (groups : List (Option Width)) : Term → Width
  | .any => ⟨1, 1⟩
  | .set _ _ => ⟨1, 1⟩
  | .anchor _ => ⟨0, 0⟩
  | .sequence parts =>
    let total := sequenceWidth groups parts
    Width.capped total.least total.most
  | .choice branches => (choiceWidth groups branches).getD ⟨0, 0⟩
  | .group _ _ _ body => body.width groups
  | .atomic body => body.width groups
  | .repeated low high _ body => (body.width groups).times low high
  | .ahead _ _ => ⟨0, 0⟩
  | .behind _ _ _ => ⟨0, 0⟩
  | .reference index => ((groups[index - 1]?).getD none).getD ⟨0, 0⟩
  | .conditional _ yes no => (yes.width groups).or (no.width groups)
termination_by structural t => t

def sequenceWidth (groups : List (Option Width)) : List Term → Width
  | [] => ⟨0, 0⟩
  | part :: parts => (part.width groups).add (sequenceWidth groups parts)
termination_by structural ts => ts

def choiceWidth (groups : List (Option Width)) : List Term → Option Width
  | [] => none
  | branch :: branches =>
    match choiceWidth groups branches with
    | some w => some ((branch.width groups).or w)
    | none => some (branch.width groups)
termination_by structural ts => ts

end

end CallAudit.Regex
