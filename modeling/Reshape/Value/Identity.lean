import Reshape.Value.Basic

/-!
# Identity of values

Whether two values are one and the same, fields in the same order and numbers of the same kind. It
is finer than `Value.equal`, under which the order of fields and the kind of a number do not count,
and it is what a statement about an output asks for. `DecidableEq Value` rests on it.
-/

namespace Reshape.Value

mutual

/-- Whether two values are the same. -/
def identical : Value → Value → Bool
  | .null, .null => true
  | .bool a, .bool b => a == b
  | .int a, .int b => a == b
  | .float a, .float b => decide (a = b)
  | .string a, .string b => a == b
  | .array a, .array b => identicalItems a b
  | .object a, .object b => identicalFields a b
  | _, _ => false

def identicalItems : List Value → List Value → Bool
  | [], [] => true
  | a :: as, b :: bs => identical a b && identicalItems as bs
  | _, _ => false

def identicalFields : List (String × Value) → List (String × Value) → Bool
  | [], [] => true
  | (m, a) :: as, (n, b) :: bs => m == n && identical a b && identicalFields as bs
  | _, _ => false

end

mutual

theorem identical_self (a : Value) : identical a a = true := by
  cases a with
  | array items => exact identicalItems_self items
  | object fields => exact identicalFields_self fields
  | _ => simp [identical]

theorem identicalItems_self (as : List Value) : identicalItems as as = true := by
  cases as with
  | nil => rfl
  | cons a as => simp [identicalItems, identical_self a, identicalItems_self as]

theorem identicalFields_self (as : List (String × Value)) : identicalFields as as = true := by
  cases as with
  | nil => rfl
  | cons a as => simp [identicalFields, identical_self a.2, identicalFields_self as]

end

mutual

theorem eq_of_identical (a b : Value) (h : identical a b = true) : a = b := by
  cases a with
  | array items =>
    cases b with
    | array others => rw [eq_of_identicalItems items others h]
    | _ => exact absurd h (by simp [identical])
  | object fields =>
    cases b with
    | object others => rw [eq_of_identicalFields fields others h]
    | _ => exact absurd h (by simp [identical])
  | _ => cases b <;> simp_all [identical]

theorem eq_of_identicalItems (as bs : List Value) (h : identicalItems as bs = true) : as = bs := by
  cases as with
  | nil => cases bs <;> simp_all [identicalItems]
  | cons a as =>
    cases bs with
    | nil => simp [identicalItems] at h
    | cons b bs =>
      obtain ⟨hab, hrest⟩ := Bool.and_eq_true_iff.1 h
      rw [eq_of_identical a b hab, eq_of_identicalItems as bs hrest]

theorem eq_of_identicalFields (as bs : List (String × Value)) (h : identicalFields as bs = true) :
    as = bs := by
  cases as with
  | nil => cases bs <;> simp_all [identicalFields]
  | cons a as =>
    cases bs with
    | nil => simp [identicalFields] at h
    | cons b bs =>
      obtain ⟨m, a⟩ := a
      obtain ⟨n, b⟩ := b
      obtain ⟨hhead, hrest⟩ := Bool.and_eq_true_iff.1 h
      obtain ⟨hname, hab⟩ := Bool.and_eq_true_iff.1 hhead
      rw [eq_of_beq hname, eq_of_identical a b hab, eq_of_identicalFields as bs hrest]

end

instance : DecidableEq Value := fun a b =>
  decidable_of_iff (identical a b = true)
    ⟨eq_of_identical a b, fun h => h ▸ identical_self a⟩

end Reshape.Value
