/-!
# Texts that are given

An optional text counts as given only when it is not empty.
-/

namespace RouterOperator.Text

/-- The text, if there is one and it is not empty. -/
def given (text : Option String) : Option String := text.filter (· ≠ "")

@[simp] theorem given_none : given none = none := rfl

@[simp] theorem given_some_empty : given (some "") = none := by simp [given]

theorem given_some_of_ne {text : String} (nonempty : text ≠ "") :
    given (some text) = some text := by simp [given, nonempty]

theorem given_eq_some_iff {text : Option String} {value : String} :
    given text = some value ↔ text = some value ∧ value ≠ "" := by
  rw [given, Option.filter_eq_some_iff, decide_eq_true_eq]

end RouterOperator.Text
