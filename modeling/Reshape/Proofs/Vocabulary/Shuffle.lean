import Reshape.Proofs.Value.Shuffle
import Reshape.Vocabulary.Aggregation
import Reshape.Vocabulary.Transform

/-!
# Functions and folds of shuffled values

Of the built-in functions only `Transform.concat` shows the order in which the fields of an object
are written, because it prints them. All others, and all built-in folds, make shuffled values of
shuffled values. Of what an application adds nothing is known.
-/

namespace Reshape

open Value (Shuffled shuffled_refl)

/-! ## Functions -/

namespace Transform

/-- Whether the order of an object's fields can come through a function. -/
def ShowsOrder : Transform → Prop
  | concat | custom _ => True
  | _ => False

variable {a b : Value}

theorem size_eq_of_shuffled (h : a.Shuffled b) : size a = size b := by
  refine Value.Shuffled.induction ?_ ?_ ?_ h
  · exact fun _ _ => rfl
  · intro as bs hitems
    rw [size, size, hitems.length_eq]
  · intro as bs cs hfields hshuffle
    rw [size, size, hfields.length_eq, hshuffle.perm.length_eq]

theorem rounded_eq_of_shuffled (decimals : DecimalArithmetic) {a' b' : Value} (h : a.Shuffled b)
    (h' : a'.Shuffled b') : rounded decimals a a' = rounded decimals b b' := by
  have hplaces : places? a' = places? b' := h'.congr fun v => by cases v <;> rfl
  have hnumber : rounded decimals a b' = rounded decimals b b' :=
    h.congr (f := (rounded decimals · b')) fun v => by cases v <;> rfl
  rw [← hnumber, rounded, rounded, hplaces]

/-- Every other function makes shuffled values of shuffled arguments. -/
theorem apply_shuffled {f : Transform} (hf : ¬f.ShowsOrder) {as bs : List Value}
    (h : List.Forall₂ Shuffled as bs) : (f.apply as).Shuffled (f.apply bs) := by
  have hfirst : (as[0]?.getD Value.null).Shuffled (bs[0]?.getD Value.null) :=
    rel_getD (forall₂_getElem? h 0) (shuffled_refl .null)
  have hsecond : (as[1]?.getD Value.null).Shuffled (bs[1]?.getD Value.null) :=
    rel_getD (forall₂_getElem? h 1) (shuffled_refl _)
  cases f with
  | abs => exact .of_eq (hfirst.congr (f := absolute) fun v => by cases v <;> rfl)
  | uppercase => exact .of_eq (hfirst.congr (f := onText _) fun v => by cases v <;> rfl)
  | lowercase => exact .of_eq (hfirst.congr (f := onText _) fun v => by cases v <;> rfl)
  | trim => exact .of_eq (hfirst.congr (f := onText _) fun v => by cases v <;> rfl)
  | length => exact .of_eq (size_eq_of_shuffled hfirst)
  | round decimals => exact .of_eq (rounded_eq_of_shuffled decimals hfirst hsecond)
  | floor => exact .of_eq (hfirst.congr (f := toWhole _) fun v => by cases v <;> rfl)
  | ceil => exact .of_eq (hfirst.congr (f := toWhole _) fun v => by cases v <;> rfl)
  | concat | custom f => exact absurd trivial hf
  | default =>
    rw [apply, apply]
    generalize as[0]?.getD Value.null = a, bs[0]?.getD Value.null = b at hfirst
    cases a with
    | null =>
      obtain rfl := hfirst.eq_of_isTerminal rfl
      exact hsecond
    | array items =>
      obtain ⟨bs, rfl, -⟩ := hfirst.exists_items
      exact hfirst
    | object fields =>
      obtain ⟨bs, cs, rfl, -⟩ := hfirst.exists_fields
      exact hfirst
    | _ =>
      obtain rfl := hfirst.eq_of_isTerminal rfl
      exact hfirst

end Transform

/-! ## Folds -/

/-- Whether the order of an object's fields can come through a fold. -/
def Fold.ShowsOrder : Fold → Prop
  | .custom _ => True
  | _ => False

/-- The same for an aggregation. -/
def Aggregation.ShowsOrder : Aggregation → Prop
  | .group => False
  | .fold f => f.ShowsOrder

/-- Whether two folds were fed shuffled values. -/
inductive Accumulator.Shuffled : Accumulator → Accumulator → Prop
  | sum (decimals : DecimalArithmetic) (total : Total) :
    Shuffled (.sum decimals total) (.sum decimals total)
  | values {as bs : List Value} (h : List.Forall₂ Value.Shuffled as bs) :
    Shuffled (.values as) (.values bs)
  | count (n : Nat) : Shuffled (.count n) (.count n)
  | avg (decimals : DecimalArithmetic) (total : Total) (n : Nat) :
    Shuffled (.avg decimals total n) (.avg decimals total n)
  | extreme (keep : Ordering) {a b : Option Value} (h : Option.Rel Value.Shuffled a b) :
    Shuffled (.extreme keep a) (.extreme keep b)
  | first {a b : Option Value} (h : Option.Rel Value.Shuffled a b) :
    Shuffled (.first a) (.first b)
  | last {a b : Option Value} (h : Option.Rel Value.Shuffled a b) : Shuffled (.last a) (.last b)

namespace Accumulator

theorem shuffled_start {f : Fold} (hf : ¬f.ShowsOrder) : Shuffled f.start f.start := by
  cases f with
  | sum decimals => exact .sum decimals _
  | values => exact .values .nil
  | count => exact .count 0
  | avg decimals => exact .avg decimals _ 0
  | min => exact .extreme _ .none
  | max => exact .extreme _ .none
  | first => exact .first .none
  | last => exact .last .none
  | custom result => exact absurd trivial hf

theorem Shuffled.add {a b : Accumulator} (h : a.Shuffled b) {v w : Value} (hvw : v.Shuffled w) :
    (a.add v).Shuffled (b.add w) := by
  have htotal : ∀ (decimals : DecimalArithmetic) (total : Total),
      total.add decimals v = total.add decimals w :=
    fun _ _ => hvw.congr fun v => by cases v <;> rfl
  have hnumber : v.isNumber = w.isNumber := hvw.congr fun v => by cases v <;> rfl
  cases h with
  | sum decimals total =>
    rw [Accumulator.add, Accumulator.add, htotal]
    exact .sum decimals _
  | values h => exact .values (.cons hvw h)
  | count n => exact .count (n + 1)
  | avg decimals total n =>
    rw [Accumulator.add, Accumulator.add, htotal, hnumber]
    split
    · exact .avg decimals _ _
    · exact .avg decimals _ _
  | extreme keep h =>
    cases h with
    | none => exact .extreme keep (.some hvw)
    | @some best best' hbest =>
      rw [Accumulator.add, Accumulator.add, hvw.compare?_left, hbest.compare?_right]
      refine .extreme keep (.some ?_)
      split
      · exact hvw
      · exact hbest
  | first h =>
    cases h with
    | none => exact .first (.some hvw)
    | some h => exact .first (.some h)
  | last h => exact .last (.some hvw)

theorem Shuffled.get {a b : Accumulator} (h : a.Shuffled b) : a.get.Shuffled b.get := by
  cases h with
  | sum decimals total => exact shuffled_refl _
  | values h => exact Value.shuffledItems_iff_forall₂.2 (List.rel_reverse h)
  | count n => exact shuffled_refl _
  | avg decimals total n => exact shuffled_refl _
  | extreme keep h => exact rel_getD h (shuffled_refl _)
  | first h => exact rel_getD h (shuffled_refl _)
  | last h => exact rel_getD h (shuffled_refl _)

end Accumulator

/-- Every other fold makes shuffled values of shuffled values. -/
theorem Fold.run_shuffled {f : Fold} (hf : ¬f.ShowsOrder) {as bs : List Value}
    (h : List.Forall₂ Shuffled as bs) : (f.run as).Shuffled (f.run bs) := by
  have hfold : ∀ {a b : Accumulator}, a.Shuffled b →
      (as.foldl Accumulator.add a).Shuffled (bs.foldl Accumulator.add b) := by
    induction h with
    | nil => exact id
    | cons hvw _ ih => exact fun h => ih (h.add hvw)
  exact (hfold (Accumulator.shuffled_start hf)).get

end Reshape
