/-!
# Culture codes

A culture is named by an ISO code such as `en-US`.  Codes that differ only in
the case of ASCII letters name the same culture; other letters count as they
are.
-/

namespace Publishing.Culture

/-- The code with its ASCII capitals made small. -/
def fold (code : String) : String :=
  code.map Char.toLower

/-- Whether two codes name the same culture. -/
def agree (a b : String) : Bool :=
  fold a == fold b

@[simp] theorem agree_iff {a b : String} : agree a b = true ↔ fold a = fold b := by
  simp [agree]

end Publishing.Culture
