/-!
# Digits

The value of a hexadecimal digit. JSON, XML and YAML escapes give characters by such digits.
-/

namespace OntologySchema.Text

/-- The value of a hexadecimal digit. -/
def hexValue? (c : Char) : Option Nat :=
  let n := c.toNat
  if 48 ≤ n && n ≤ 57 then some (n - 48)
  else if 97 ≤ n && n ≤ 102 then some (n - 87)
  else if 65 ≤ n && n ≤ 70 then some (n - 55)
  else none

end OntologySchema.Text
