import LexicalScope.Text.Blank

/-!
# Names

What a table can bind: any text that is not empty and has neither blanks nor control characters.
-/

namespace LexicalScope

/-- The text can be bound as a name. -/
def ValidName (name : String) : Prop :=
  name ≠ "" ∧ ∀ c ∈ name.toList, Text.isBlank c = false ∧ Text.isControl c = false

-- the characters of the name are tested, and not all characters there are
instance (name : String) : Decidable (ValidName name) :=
  @instDecidableAnd _ _ inferInstance (List.decidableBAll _ name.toList)

end LexicalScope
