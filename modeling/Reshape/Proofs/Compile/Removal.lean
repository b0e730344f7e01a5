import Reshape.Proofs.Compile.Filter
import Reshape.Proofs.Compile.Predicate
import Reshape.Vocabulary.Standard

/-!
# Object selectors that only filter

An object selector with no key but `?` only removes: of a value that is no list it leaves all or
nothing, and of a list the elements that are left, in order, lists inside the list included
(`Removes`). It does copy, though: an object comes out entry by entry as leftovers, and a terminal
value is handed through.

What removes by a condition is determined by it (`Removes.eq`), and one removal behind another
removes by both conditions (`Removes.bind`). So removing twice is removing once, and the order of
two removals does not matter.
-/

namespace Reshape

/-- Whether a function on values does nothing but remove, at every depth, what is no list and does
not satisfy a condition. -/
structure Removes (P : Value → Prop) (f : Value → Option Value) : Prop where
  keeps : ∀ v, v.isArray = false → P v → f v = some v
  drops : ∀ v, v.isArray = false → ¬P v → f v = none
  list : ∀ items, f (.array items) = some (.array (items.filterMap f))

namespace Removes

variable {P Q : Value → Prop} {f g : Value → Option Value}

theorem eq_of_not_isArray (hf : Removes P f) (hg : Removes Q g) {v : Value} (h : P v ↔ Q v)
    (hv : v.isArray = false) : f v = g v := by
  by_cases hP : P v
  · rw [hf.keeps v hv hP, hg.keeps v hv (h.1 hP)]
  · rw [hf.drops v hv hP, hg.drops v hv (mt h.2 hP)]

/-- Removals by one condition are one. The induction is on the value, for the sake of lists inside a
list. -/
theorem eq (hf : Removes P f) (hg : Removes Q g) (h : ∀ v, P v ↔ Q v) : f = g := by
  funext v
  induction v using Value.induction with
  | terminal v hv => exact hf.eq_of_not_isArray hg (h v) (Value.isArray_of_isTerminal hv)
  | array items ih => rw [hf.list, hg.list, List.filterMap_congr ih]
  | object fields _ => exact hf.eq_of_not_isArray hg (h _) rfl

/-- One removal behind another removes what either condition excludes. -/
theorem bind (hf : Removes P f) (hg : Removes Q g) :
    Removes (fun v => P v ∧ Q v) fun v => (f v).bind g where
  keeps v hv h := by rw [hf.keeps v hv h.1, Option.bind_some, hg.keeps v hv h.2]
  drops v hv h := by
    by_cases hP : P v
    · rw [hf.keeps v hv hP, Option.bind_some, hg.drops v hv fun hQ => h ⟨hP, hQ⟩]
    · rw [hf.drops v hv hP, Option.bind_none]
  list items := by rw [hf.list, Option.bind_some, hg.list, List.filterMap_filterMap]

/-- Removing twice is removing once. -/
theorem bind_self (hf : Removes P f) : (fun v => (f v).bind f) = f :=
  (hf.bind hf).eq hf fun _ => and_self_iff

/-- The order of two removals does not matter. -/
theorem bind_comm (hf : Removes P f) (hg : Removes Q g) :
    (fun v => (f v).bind g) = fun v => (g v).bind f :=
  (hf.bind hg).eq (hg.bind hf) fun _ => and_comm

end Removes

/-- The node that only filters removes what fails its test. -/
theorem Node.removes_filterOnly (test : Test) :
    Removes (fun v => test (some v) = true) (filterOnly test).apply where
  keeps v hv h := by rw [apply_filterOnly_of_not_isArray hv, if_pos h]
  drops v hv h := by rw [apply_filterOnly_of_not_isArray hv, if_neg h]
  list := apply_filterOnly_array

variable {r : Resolver}

theorem FieldSelector.exists_removes {p : Predicate} (hp : ¬p.Malformed r) :
    ∃ only, (FieldSelector.mk [] none (some p)).node r = .ok only ∧
      Removes (fun v => p.Holds r (some v)) only.apply := by
  obtain ⟨test, htest⟩ := p.exists_compile_iff.2 hp
  have hfilter : compileFilter r (some p) = .ok (some test) :=
    map_eq_ok.2 ⟨test, located_eq_ok.2 htest, rfl⟩
  refine ⟨Node.filterOnly test, ?_, ?_⟩
  · exact node_eq_ok.2 ⟨[], [], .unspecified, [], some test, by rw [compileEntries],
      by rw [compileRemaining], hfilter, rfl⟩
  · have hholds : ∀ v, test (some v) = true ↔ p.Holds r (some v) := fun v =>
      p.decided test htest (some v)
    simpa only [hholds] using Node.removes_filterOnly test

/-- An object selector with no key but `?` only removes what its predicate is not true of, whatever
the predicate, as long as it has a meaning. Removing twice is removing once; of two such selectors
either may come first, and together they leave what both predicates are true of. -/
theorem FieldSelector.filter_only_removes (p q : Predicate) (hp : ¬p.Malformed r)
    (hq : ¬q.Malformed r) :
    ∃ only other, (FieldSelector.mk [] none (some p)).node r = .ok only ∧
      (FieldSelector.mk [] none (some q)).node r = .ok other ∧
      Removes (fun v => p.Holds r (some v)) only.apply ∧
      (∀ v, (only.apply v).bind only.apply = only.apply v) ∧
      (∀ v, (only.apply v).bind other.apply = (other.apply v).bind only.apply) ∧
      Removes (fun v => p.Holds r (some v) ∧ q.Holds r (some v))
        fun v => (only.apply v).bind other.apply := by
  obtain ⟨only, honly, hremoves⟩ := exists_removes hp
  obtain ⟨other, hother, hremoves'⟩ := exists_removes hq
  exact ⟨only, other, honly, hother, hremoves, congrFun hremoves.bind_self,
    congrFun (hremoves.bind_comm hremoves'), hremoves.bind hremoves'⟩

/-- The animals heavier than two and the dogs among them. A list of which nothing is left stays. -/
theorem FieldSelector.heavy_dogs :
    let p := Predicate.all [("weight", .all [(">", .equals (.int 2))])]
    let q := Predicate.all [("kind", .equals (.string "dog"))]
    let animal (kind : String) (weight : Int64) :=
      Value.object [("kind", .string kind), ("weight", .int weight)]
    let items := Value.array [animal "dog" 10, animal "cat" 1,
      .array [animal "cat" 5, animal "dog" 3], .array [animal "cat" 1], .string "dog"]
    ¬p.Malformed .standard ∧ ¬q.Malformed .standard ∧
      ∃ only other, (FieldSelector.mk [] none (some p)).node .standard = .ok only ∧
        (FieldSelector.mk [] none (some q)).node .standard = .ok other ∧
        only.apply items = some (.array [animal "dog" 10,
          .array [animal "cat" 5, animal "dog" 3], .array []]) ∧
        (only.apply items).bind only.apply = only.apply items ∧
        (only.apply items).bind other.apply =
          some (.array [animal "dog" 10, .array [animal "dog" 3], .array []]) ∧
        (other.apply items).bind only.apply =
          some (.array [animal "dog" 10, .array [animal "dog" 3], .array []]) := by
  intro p q animal items
  have hcompiles : ∀ p : Predicate, (p.compile .standard).isOk = true → ¬p.Malformed .standard := by
    intro p hok
    refine p.exists_compile_iff.1 ?_
    cases hcompile : p.compile .standard with
    | error e => simp [hcompile, Except.isOk, Except.toBool] at hok
    | ok test => exact ⟨test, rfl⟩
  have hp := hcompiles p (by decide +kernel)
  have hq := hcompiles q (by decide +kernel)
  obtain ⟨only, other, honly, hother, -, hself, hcomm, -⟩ := filter_only_removes p q hp hq
  have hdogs : (do
      let only ← (FieldSelector.mk [] none (some p)).node .standard
      let other ← (FieldSelector.mk [] none (some q)).node .standard
      return (only.apply items, (only.apply items).bind other.apply)).toOption =
        some (some (.array [animal "dog" 10, .array [animal "cat" 5, animal "dog" 3], .array []]),
          some (.array [animal "dog" 10, .array [animal "dog" 3], .array []])) := by
    decide +kernel
  rw [honly, hother] at hdogs
  obtain ⟨hheavy, hboth⟩ := Prod.mk.inj (Option.some.inj hdogs)
  exact ⟨hp, hq, only, other, honly, hother, hheavy, hself items, hboth,
    (hcomm items).symm.trans hboth⟩

end Reshape
