import TreeInspector.Text.Blank
import TreeInspector.Text.Spelling

/-! # Labels and rule names

A node is called by the index of a grammar rule or by its own text. Rule names turn indices into
text; an index without a name is shown in decimal.
-/

namespace TreeInspector

/-- What a node wants to be called. -/
inductive NodeLabel where
  | rule (index : UInt64)
  | text (text : String)
deriving DecidableEq

/-- The names of the grammar's rules in index order. -/
structure RuleNames where
  names : List String
deriving DecidableEq

namespace RuleNames

/-- No names at all. -/
def empty : RuleNames := ⟨[]⟩

/-- One name a line, trimmed, blank lines left out. -/
def ofLines (text : String) : RuleNames := ⟨(Blank.names text.toList).map String.ofList⟩

/-- The name of a rule, if it has one. -/
def get? (rules : RuleNames) (index : Nat) : Option String := rules.names[index]?

/-- Whether there are no names. -/
def isEmpty (rules : RuleNames) : Bool := rules.names.isEmpty

/-- The text shown for a label. -/
def textFor (rules : RuleNames) : NodeLabel → String
  | .rule index => ((rules.get? index.toNat).map Spelling.spell).getD (Nat.repr index.toNat)
  | .text text => Spelling.spell text

end RuleNames

end TreeInspector
