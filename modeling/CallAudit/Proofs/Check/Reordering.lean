import CallAudit.Proofs.Check.Canonical
import CallAudit.Proofs.Json.Writing

/-!
# Configurations in another order

Targets and listed methods are put in order before a configuration is written, and the fields of objects as
they are written. So none of these orders is seen in the canonical text or in the code derived from it.
-/

namespace CallAudit

/-- Targets that differ in nothing but order, if they are texts. Any others are the same. -/
inductive Datum.TargetsReordered : Datum → Datum → Prop
  | texts {names others : List String} (order : names.Perm others) :
      TargetsReordered (.list (names.map .text)) (.list (others.map .text))
  | same (d : Datum) : TargetsReordered d d

/-- Methods that differ in nothing but order: that of a list, or that of the fields of an object and of the
    objects in it. Anything else has no order of its own. -/
inductive Datum.MethodsReordered : Datum → Datum → Prop
  | list {items others : List Datum} (order : items.Perm others) :
      MethodsReordered (.list items) (.list others)
  | object {fields others : List (String × Datum)} (order : Reordered (.object fields) (.object others)) :
      MethodsReordered (.object fields) (.object others)
  | single {d : Datum} (single : d.IsSingle) : MethodsReordered d d

namespace Config

/-- Configurations that differ in nothing but the order of targets and methods, and in their codes. -/
structure Reordered (config other : Config) : Prop where
  name_eq : config.name = other.name
  description_eq : config.description = other.description
  symbol_eq : config.warningSymbol = other.warningSymbol
  targets_reordered : config.targets.TargetsReordered other.targets
  methods_reordered : config.methods.MethodsReordered other.methods

variable {config other : Config}

end Config

end CallAudit
