import Reshape.Compile.Predicate
import Reshape.Proofs.Related

/-!
# What a compiled predicate tests

When a predicate is true of a value that may be absent is stated here on its own
(`Predicate.Holds`), clause by clause and without tests, and so is what makes a predicate
meaningless (`Predicate.Malformed`). Compiling succeeds exactly when nothing in the predicate is
malformed, and then the test decides the truth of the predicate, whatever names the operators go by.

What is a pattern and what it matches is left to the engine that the operator comes with; only that
it is asked about strings is stated. An operator that an application adds means what it says it
does: it is true of what passes its test, and an operand that it refuses has no meaning.
-/

namespace Reshape

variable {r : Resolver}

/-! ## Truth -/

/-- What stands under a key: null under every key of null, a field of an object, and an element of
an array if the key is a whole number, from zero on counted from the front and below zero from the
end. -/
def Value.under? : Value → String → Option Value
  | .null, _ => some .null
  | .object fields, key => fields.lookup key
  | .array items, key =>
    (int64OfText? key).bind fun n =>
      if 0 ≤ n.toInt then items[n.toInt.toNat]? else items.reverse[n.toInt.natAbs - 1]?
  | _, _ => none

/-- Whether a value is there, has an order to the literal of the predicate and is on the right side
of it. -/
def Predicate.HoldsCompared (c : Comparison) (p : Predicate) (v : Option Value) : Prop :=
  ∃ literal w o, p = .equals literal ∧ v = some w ∧ w.compare? literal = some o ∧
    match c with
    | .less => o = .lt
    | .atMost => o = .lt ∨ o = .eq
    | .atLeast => o = .gt ∨ o = .eq
    | .greater => o = .gt

/-- Whether a value is a string with a match for the pattern that the predicate writes. -/
def Predicate.HoldsMatched (engine : PatternEngine) (p : Predicate) (v : Option Value) : Prop :=
  ∃ text isMatch s, p = .equals (.string text) ∧ engine.compile? text = some isMatch ∧
    v = some (.string s) ∧ isMatch s = true

mutual

/-- Whether a predicate is true of a value that may be absent. -/
def Predicate.Holds (r : Resolver) : Predicate → Option Value → Prop
  | .equals expected, v => ∃ w, v = some w ∧ w.equal expected = true
  | .all entries, v => AllHold r entries v
  | .any alternatives, v => AnyHolds r alternatives v

/-- Whether every entry of a conjunction is true; see `allHold_iff`. -/
def AllHold (r : Resolver) : List (String × Predicate) → Option Value → Prop
  | [], _ => True
  | (key, p) :: entries, v =>
    (match r.operator? key with
      | none => p.Holds r (v.bind (·.under? key))
      | some .negation => ¬p.Holds r v
      | some (.comparison c) => p.HoldsCompared c v
      | some (.pattern engine) => p.HoldsMatched engine v
      | some (.custom f) => ∃ test, f p = .ok test ∧ test v = true) ∧ AllHold r entries v

/-- Whether some alternative of a disjunction is true; see `anyHolds_iff`. -/
def AnyHolds (r : Resolver) : List Predicate → Option Value → Prop
  | [], _ => False
  | p :: ps, v => p.Holds r v ∨ AnyHolds r ps v

end

/-- Whether an entry of a conjunction is true. A key that is no operator says where to look. -/
def Predicate.HoldsUnder (r : Resolver) (key : String) (p : Predicate) (v : Option Value) : Prop :=
  match r.operator? key with
  | none => p.Holds r (v.bind (·.under? key))
  | some .negation => ¬p.Holds r v
  | some (.comparison c) => p.HoldsCompared c v
  | some (.pattern engine) => p.HoldsMatched engine v
  | some (.custom f) => ∃ test, f p = .ok test ∧ test v = true

theorem allHold_iff {entries : List (String × Predicate)} {v : Option Value} :
    AllHold r entries v ↔ ∀ entry ∈ entries, entry.2.HoldsUnder r entry.1 v := by
  induction entries with
  | nil => simp [AllHold]
  | cons entry entries ih => rw [AllHold, ih, List.forall_mem_cons, Predicate.HoldsUnder]

theorem anyHolds_iff {alternatives : List Predicate} {v : Option Value} :
    AnyHolds r alternatives v ↔ ∃ p ∈ alternatives, p.Holds r v := by
  induction alternatives with
  | nil => simp [AnyHolds]
  | cons p ps ih => rw [AnyHolds, ih, List.exists_mem_cons_iff]

/-! ## Meaningless predicates -/

/-- Whether a predicate has no meaning, because of an operand or because of a disjunction directly
inside another one. -/
inductive Predicate.Malformed (r : Resolver) : Predicate → Prop
  | comparison {entries : List (String × Predicate)} {key : String} {p : Predicate}
      {c : Comparison} (mem : (key, p) ∈ entries)
      (operator : r.operator? key = some (.comparison c))
      (operand : ∀ literal, p ≠ .equals literal) : Malformed r (.all entries)
  | pattern {entries : List (String × Predicate)} {key : String} {p : Predicate}
      {engine : PatternEngine} (mem : (key, p) ∈ entries)
      (operator : r.operator? key = some (.pattern engine))
      (operand : ∀ text, p = .equals (.string text) → engine.compile? text = none) :
      Malformed r (.all entries)
  /-- An operator that an application adds refuses its operand. -/
  | custom {entries : List (String × Predicate)} {key : String} {p : Predicate}
      {f : Predicate → Except CompileError Test} (mem : (key, p) ∈ entries)
      (operator : r.operator? key = some (.custom f)) (operand : ∀ test, f p ≠ .ok test) :
      Malformed r (.all entries)
  | negated {entries : List (String × Predicate)} {key : String} {p : Predicate}
      (mem : (key, p) ∈ entries) (operator : r.operator? key = some .negation)
      (operand : Malformed r p) : Malformed r (.all entries)
  | under {entries : List (String × Predicate)} {key : String} {p : Predicate}
      (mem : (key, p) ∈ entries) (operator : r.operator? key = none)
      (operand : Malformed r p) : Malformed r (.all entries)
  | nested {alternatives inner : List Predicate} (mem : .any inner ∈ alternatives) :
      Malformed r (.any alternatives)
  | alternative {alternatives : List Predicate} {p : Predicate} (mem : p ∈ alternatives)
      (operand : Malformed r p) : Malformed r (.any alternatives)

/-! ## Compiling part by part -/

/-- What holds of every predicate that compares and of every other one as soon as it holds of its
entries or alternatives. -/
@[elab_as_elim]
theorem Predicate.induction {P : Predicate → Prop} (equals : ∀ expected, P (.equals expected))
    (all : ∀ entries, (∀ entry ∈ entries, P entry.2) → P (.all entries))
    (any : ∀ alternatives, (∀ p ∈ alternatives, P p) → P (.any alternatives)) (p : Predicate) :
    P p := by
  refine @Predicate.rec P (fun entries => ∀ entry ∈ entries, P entry.2)
    (fun alternatives => ∀ p ∈ alternatives, P p) (fun entry => P entry.2) equals all any ?_ ?_ ?_
    ?_ ?_ p
  · exact fun _ h => nomatch h
  · exact fun _ _ hentry hentries => List.forall_mem_cons.2 ⟨hentry, hentries⟩
  · exact fun _ h => nomatch h
  · exact fun _ _ hp hps => List.forall_mem_cons.2 ⟨hp, hps⟩
  · exact fun _ _ hp => hp

namespace Predicate

/-- The test of an entry of a conjunction. -/
def compileUnder (r : Resolver) (key : String) (p : Predicate) : Except CompileError Test :=
  match r.operator? key with
  | some .negation => (p.compile r).map Test.negated
  | some (.comparison c) => c.compile p
  | some (.pattern engine) => engine.compile p
  | some (.custom f) => f p
  | none => (p.compile r).map (Test.ofPart · key)

theorem compileEntries_eq_ok {entries : List (String × Predicate)} {tests : List Test} :
    compileEntries r entries = .ok tests ↔
      List.Forall₂ (fun entry test => entry.2.compileUnder r entry.1 = .ok test) entries tests := by
  induction entries generalizing tests with
  | nil => rw [compileEntries, List.forall₂_nil_left_iff, Except.ok.injEq, eq_comm]
  | cons entry entries ih =>
    obtain ⟨key, p⟩ := entry
    have hentry : compileEntries r ((key, p) :: entries) =
        (located key (p.compileUnder r key) >>= fun test => do
          return test :: (← compileEntries r entries)) := rfl
    rw [hentry, bind_eq_ok]
    constructor
    · rintro ⟨test, htest, h⟩
      obtain ⟨rest, hrest, h⟩ := bind_eq_ok.1 h
      cases h
      exact .cons (located_eq_ok.1 htest) (ih.1 hrest)
    · intro h
      cases h with
      | cons htest hrest =>
        exact ⟨_, located_eq_ok.2 htest, bind_eq_ok.2 ⟨_, ih.2 hrest, rfl⟩⟩

theorem compileAlternatives_eq_ok {alternatives : List Predicate} {tests : List Test} :
    compileAlternatives r alternatives = .ok tests ↔
      List.Forall₂ (fun p test => p.isAny = false ∧ p.compile r = .ok test) alternatives tests := by
  induction alternatives generalizing tests with
  | nil => rw [compileAlternatives, List.forall₂_nil_left_iff, Except.ok.injEq, eq_comm]
  | cons p ps ih =>
    rw [compileAlternatives]
    cases hany : p.isAny with
    | true =>
      refine iff_of_false refuse_ne_ok fun h => ?_
      cases h with
      | cons hp _ => exact Bool.noConfusion (hany.symm.trans hp.1)
    | false =>
      rw [if_neg Bool.false_ne_true, bind_eq_ok]
      constructor
      · rintro ⟨test, htest, h⟩
        obtain ⟨rest, hrest, h⟩ := bind_eq_ok.1 h
        cases h
        exact .cons ⟨hany, htest⟩ (ih.1 hrest)
      · intro h
        cases h with
        | cons htest hrest => exact ⟨_, htest.2, bind_eq_ok.2 ⟨_, ih.2 hrest, rfl⟩⟩

theorem compile_all_eq_ok {entries : List (String × Predicate)} {test : Test} :
    (Predicate.all entries).compile r = .ok test ↔
      ∃ tests, List.Forall₂ (fun entry test => entry.2.compileUnder r entry.1 = .ok test)
        entries tests ∧ (fun v => tests.all (· v)) = test := by
  rw [compile, bind_eq_ok]
  simp only [compileEntries_eq_ok, pure, Except.pure, Except.ok.injEq]

theorem compile_any_eq_ok {alternatives : List Predicate} {test : Test} :
    (Predicate.any alternatives).compile r = .ok test ↔
      ∃ tests, List.Forall₂ (fun p test => p.isAny = false ∧ p.compile r = .ok test)
        alternatives tests ∧ (fun v => tests.any (· v)) = test := by
  rw [compile, bind_eq_ok]
  simp only [compileAlternatives_eq_ok, pure, Except.pure, Except.ok.injEq]

end Predicate

theorem literalOperand_eq_ok {operator : String} {p : Predicate} {literal : Value} :
    literalOperand operator p = .ok literal ↔ p = .equals literal := by
  cases p <;> simp [literalOperand, refuse]

theorem Comparison.compile_eq_ok {c : Comparison} {p : Predicate} {test : Test} :
    c.compile p = .ok test ↔ ∃ literal, p = .equals literal ∧
      (fun v => (v.bind (Value.compare? · literal)).any c.accepts) = test := by
  rw [Comparison.compile, bind_eq_ok]
  simp only [literalOperand_eq_ok, pure, Except.pure, Except.ok.injEq]

theorem PatternEngine.compile_eq_ok {engine : PatternEngine} {p : Predicate} {test : Test} :
    engine.compile p = .ok test ↔ ∃ text isMatch, p = .equals (.string text) ∧
      engine.compile? text = some isMatch ∧
      (fun v => (v.bind Value.toString?).any isMatch) = test := by
  rw [PatternEngine.compile, bind_eq_ok]
  simp only [literalOperand_eq_ok]
  constructor
  · rintro ⟨literal, rfl, h⟩
    split at h
    · split at h
      case h_1 text _ isMatch hpattern =>
        cases h
        exact ⟨text, isMatch, rfl, hpattern, rfl⟩
      case h_2 => exact absurd h refuse_ne_ok
    · exact absurd h refuse_ne_ok
  · rintro ⟨text, isMatch, rfl, hpattern, rfl⟩
    refine ⟨_, rfl, ?_⟩
    simp only [hpattern]
    rfl

/-! ## The test decides -/

theorem Value.part?_eq_under? (v : Value) (key : String) : v.part? key = v.under? key := by
  cases v with
  | array items => exact Option.bind_congr fun n _ => at?_array items n
  | _ => rfl

namespace Predicate

theorem compared_iff {c : Comparison} {literal : Value} {v : Option Value} :
    (v.bind (Value.compare? · literal)).any c.accepts = true ↔
      (Predicate.equals literal).HoldsCompared c v := by
  have haccepts : ∀ o, c.accepts o = true ↔ match c with
      | .less => o = .lt
      | .atMost => o = .lt ∨ o = .eq
      | .atLeast => o = .gt ∨ o = .eq
      | .greater => o = .gt := by
    intro o
    cases c <;> cases o <;> simp [Comparison.accepts]
  rw [Option.any_eq_true]
  simp only [Option.bind_eq_some_iff, haccepts]
  constructor
  · rintro ⟨o, ⟨w, hw, ho⟩, hside⟩
    exact ⟨literal, w, o, rfl, hw, ho, hside⟩
  · rintro ⟨_, w, o, h, hw, ho, hside⟩
    cases h
    exact ⟨o, ⟨w, hw, ho⟩, hside⟩

theorem matched_iff {engine : PatternEngine} {text : String} {isMatch : String → Bool}
    (h : engine.compile? text = some isMatch) {v : Option Value} :
    (v.bind Value.toString?).any isMatch = true ↔
      (Predicate.equals (.string text)).HoldsMatched engine v := by
  have hstring : ∀ w : Value, ∀ s, w.toString? = some s ↔ w = .string s := by
    intro w s
    cases w <;> simp [Value.toString?]
  rw [Option.any_eq_true]
  simp only [Option.bind_eq_some_iff, hstring]
  constructor
  · rintro ⟨s, ⟨w, hw, rfl⟩, hmatch⟩
    exact ⟨text, isMatch, s, rfl, h, hw, hmatch⟩
  · rintro ⟨_, isMatch', s, heq, h', hw, hmatch⟩
    cases heq
    obtain rfl := Option.some.inj (h.symm.trans h')
    exact ⟨s, ⟨_, hw, rfl⟩, hmatch⟩

/-- Whether the test of a predicate, if it has one, decides its truth. -/
def Decided (r : Resolver) (p : Predicate) : Prop :=
  ∀ test, p.compile r = .ok test → ∀ v, test v = true ↔ p.Holds r v

theorem Decided.under {p : Predicate} (hp : p.Decided r) {key : String} {test : Test}
    (h : p.compileUnder r key = .ok test) (v : Option Value) :
    test v = true ↔ p.HoldsUnder r key v := by
  unfold compileUnder at h
  unfold HoldsUnder
  cases hoperator : r.operator? key with
  | none =>
    rw [hoperator] at h
    obtain ⟨inner, hinner, rfl⟩ := map_eq_ok.1 h
    simp only [Test.ofPart, Value.part?_eq_under?]
    exact hp inner hinner _
  | some operator =>
    rw [hoperator] at h
    cases operator with
    | negation =>
      obtain ⟨inner, hinner, rfl⟩ := map_eq_ok.1 h
      rw [Test.negated, Bool.not_eq_true', ← Bool.not_eq_true, hp inner hinner]
    | comparison c =>
      obtain ⟨literal, rfl, rfl⟩ := Comparison.compile_eq_ok.1 h
      exact compared_iff
    | pattern engine =>
      obtain ⟨text, isMatch, rfl, hpattern, rfl⟩ := PatternEngine.compile_eq_ok.1 h
      exact matched_iff hpattern
    | custom f => exact ⟨fun htest => ⟨test, h, htest⟩, fun ⟨_, h', htest⟩ =>
        Except.ok.inj (h.symm.trans h') ▸ htest⟩

/-- The test of every predicate that compiles decides its truth. -/
theorem decided (p : Predicate) : p.Decided r := by
  induction p using induction with
  | equals expected =>
    intro test h v
    rw [compile] at h
    cases h
    rw [Holds, Option.any_eq_true]
  | all entries ih =>
    intro test h v
    obtain ⟨tests, htests, rfl⟩ := compile_all_eq_ok.1 h
    rw [Holds, allHold_iff, List.all_eq_true]
    exact forall_mem_iff_of_forall₂ htests fun entry hentry _ htest =>
      (ih entry hentry).under htest v
  | any alternatives ih =>
    intro test h v
    obtain ⟨tests, htests, rfl⟩ := compile_any_eq_ok.1 h
    rw [Holds, anyHolds_iff, List.any_eq_true]
    exact exists_mem_iff_of_forall₂ htests fun p hp test htest => ih p hp test htest.2 v

/-! ## What does not compile -/

/-- Whether an entry of a conjunction has no meaning. -/
def MalformedUnder (r : Resolver) (key : String) (p : Predicate) : Prop :=
  match r.operator? key with
  | none | some .negation => p.Malformed r
  | some (.comparison _) => ∀ literal, p ≠ .equals literal
  | some (.pattern engine) => ∀ text, p = .equals (.string text) → engine.compile? text = none
  | some (.custom f) => ∀ test, f p ≠ .ok test

theorem malformed_all_iff {entries : List (String × Predicate)} :
    (Predicate.all entries).Malformed r ↔ ∃ entry ∈ entries, entry.2.MalformedUnder r entry.1 := by
  constructor
  · intro h
    cases h with
    | comparison mem operator operand => exact ⟨_, mem, by simpa [MalformedUnder, operator]⟩
    | pattern mem operator operand => exact ⟨_, mem, by simpa [MalformedUnder, operator]⟩
    | custom mem operator operand => exact ⟨_, mem, by simpa [MalformedUnder, operator]⟩
    | negated mem operator operand => exact ⟨_, mem, by simpa [MalformedUnder, operator]⟩
    | under mem operator operand => exact ⟨_, mem, by simpa [MalformedUnder, operator]⟩
  · rintro ⟨⟨key, p⟩, mem, h⟩
    unfold MalformedUnder at h
    split at h
    case h_1 operator => exact .under mem operator h
    case h_2 operator => exact .negated mem operator h
    case h_3 operator => exact .comparison mem operator h
    case h_4 operator => exact .pattern mem operator h
    case h_5 operator => exact .custom mem operator h

theorem malformed_any_iff {alternatives : List Predicate} :
    (Predicate.any alternatives).Malformed r ↔
      ∃ p ∈ alternatives, p.isAny = true ∨ p.Malformed r := by
  constructor
  · intro h
    cases h with
    | nested mem => exact ⟨_, mem, .inl rfl⟩
    | alternative mem operand => exact ⟨_, mem, .inr operand⟩
  · rintro ⟨p, mem, hany | operand⟩
    · cases p with
      | any inner => exact .nested mem
      | _ => cases hany
    · exact .alternative mem operand

theorem exists_compileUnder_iff {key : String} {p : Predicate}
    (hp : (∃ test, p.compile r = .ok test) ↔ ¬p.Malformed r) :
    (∃ test, p.compileUnder r key = .ok test) ↔ ¬p.MalformedUnder r key := by
  unfold compileUnder MalformedUnder
  have hmap : ∀ f : Test → Test, (∃ test, (p.compile r).map f = .ok test) ↔ ¬p.Malformed r := by
    intro f
    rw [← hp]
    cases p.compile r <;> simp [Except.map]
  cases hoperator : r.operator? key with
  | none => exact hmap _
  | some operator =>
    cases operator with
    | negation => exact hmap _
    | comparison c =>
      simp only [Comparison.compile_eq_ok]
      simp
    | pattern engine =>
      simp only [PatternEngine.compile_eq_ok]
      simp [Option.ne_none_iff_exists']
    | custom f => simp

/-- Exactly the predicates that are not malformed compile. -/
theorem exists_compile_iff (p : Predicate) :
    (∃ test, p.compile r = .ok test) ↔ ¬p.Malformed r := by
  induction p using induction with
  | equals expected =>
    rw [compile]
    refine iff_of_true ⟨_, rfl⟩ ?_
    rintro ⟨⟩
  | all entries ih =>
    have hentries : (∃ test, (Predicate.all entries).compile r = .ok test) ↔
        ∀ entry ∈ entries, ∃ test, entry.2.compileUnder r entry.1 = .ok test := by
      simp only [compile_all_eq_ok, ← exists_forall₂_iff]
      simp
    rw [hentries, malformed_all_iff]
    simp only [not_exists, not_and]
    exact forall₂_congr fun entry hentry => exists_compileUnder_iff (ih entry hentry)
  | any alternatives ih =>
    have halternatives : (∃ test, (Predicate.any alternatives).compile r = .ok test) ↔
        ∀ p ∈ alternatives, ∃ test, p.isAny = false ∧ p.compile r = .ok test := by
      simp only [compile_any_eq_ok, ← exists_forall₂_iff]
      simp
    rw [halternatives, malformed_any_iff]
    simp only [not_exists, not_and, not_or, Bool.not_eq_true]
    refine forall₂_congr fun p hp => ?_
    rw [exists_and_left, ih p hp]

/-- A predicate fails to compile exactly when it is malformed, and the test of one that compiles
decides its truth, of every value and of an absent one. -/
theorem compile_decides_holds (r : Resolver) (p : Predicate) :
    ((∃ e, p.compile r = .error e) ↔ p.Malformed r) ∧
      ∀ test, p.compile r = .ok test → ∀ v, test v = true ↔ p.Holds r v := by
  refine ⟨?_, decided p⟩
  rw [← not_iff_not, ← exists_compile_iff]
  cases p.compile r <;> simp

end Predicate

/-- The patterns that are made of letters, which match the strings that they occur in. -/
def PatternEngine.letters : PatternEngine where
  compile? text :=
    if text.toList.all Char.isAlpha then some fun s => s.toList.tails.any text.toList.isPrefixOf
    else none

/-- Operators under names of their own: the last tag of an animal is not null, the animal is not
lighter than five, and its name has a double letter. Each comparison holds of some weight and fails
for another one. What is no pattern is refused, and so is a disjunction in a disjunction, also
behind a negation. -/
theorem Predicate.compile_animal_predicate :
    let r := Scope.resolver [⟨[], [], [("not", .negation), ("below", .comparison .less),
      ("upTo", .comparison .atMost), ("from", .comparison .atLeast),
      ("above", .comparison .greater), ("like", .pattern .letters)]⟩]
    let weighs (operator : String) (n : Int64) :=
      Predicate.all [("weight", .all [(operator, .equals (.int n))])]
    let p := Predicate.all [
      ("not", .any [.all [("tags", .all [("-1", .equals .null)])], weighs "below" 5]),
      ("name", .all [("like", .equals (.string "oo"))])]
    let animal (name : String) (weight : Int64) (tags : List Value) :=
      some (Value.object [("name", .string name), ("weight", .int weight), ("tags", .array tags)])
    let poodle := animal "poodle" 5 []
    (¬∃ e, p.compile r = .error e) ∧
      p.Holds r (animal "poodle" 5 [.null, .string "x"]) ∧
      ¬p.Holds r (animal "poodle" 5 [.string "x", .null]) ∧ ¬p.Holds r (animal "collie" 7 []) ∧
      ¬p.Holds r (animal "poodle" 4 []) ∧ ¬p.Holds r none ∧
      ((weighs "below" 6).Holds r poodle ∧ ¬(weighs "below" 5).Holds r poodle) ∧
      ((weighs "upTo" 5).Holds r poodle ∧ ¬(weighs "upTo" 4).Holds r poodle) ∧
      ((weighs "from" 5).Holds r poodle ∧ ¬(weighs "from" 6).Holds r poodle) ∧
      ((weighs "above" 4).Holds r poodle ∧ ¬(weighs "above" 5).Holds r poodle) ∧
      (∃ e, (Predicate.all [("like", .equals (.string "("))]).compile r = .error e) ∧
      ∃ e, (Predicate.all [("not", .any [p, .any []])]).compile r = .error e := by
  intro r weighs p animal poodle
  have hholds : ∀ {p : Predicate} {v b}, (p.compile r).toOption.map (· v) = some b →
      (p.Holds r v ↔ b = true) := by
    intro p v b h
    cases hcompile : p.compile r with
    | error e => simp [hcompile, Except.toOption] at h
    | ok test =>
      obtain rfl : test v = b := by simpa [hcompile, Except.toOption] using h
      exact ((compile_decides_holds r p).2 test hcompile v).symm
  have hyes : ∀ {p : Predicate} {v}, (p.compile r).toOption.map (· v) = some true → p.Holds r v :=
    fun h => (hholds h).2 rfl
  have hno : ∀ {p : Predicate} {v}, (p.compile r).toOption.map (· v) = some false → ¬p.Holds r v :=
    fun h => (hholds h).not.2 Bool.false_ne_true
  refine ⟨?_, hyes (by decide +kernel), hno (by decide +kernel), hno (by decide +kernel),
    hno (by decide +kernel), hno (by decide +kernel), ⟨hyes (by decide +kernel),
    hno (by decide +kernel)⟩, ⟨hyes (by decide +kernel), hno (by decide +kernel)⟩,
    ⟨hyes (by decide +kernel), hno (by decide +kernel)⟩, ⟨hyes (by decide +kernel),
    hno (by decide +kernel)⟩, ?_, ?_⟩
  · rintro ⟨e, he⟩
    have hok : (p.compile r).isOk = true := by decide +kernel
    simp [he, Except.isOk, Except.toBool] at hok
  · refine (compile_decides_holds r _).1.2 (.pattern List.mem_cons_self rfl ?_)
    rintro text ⟨⟩
    decide
  · refine (compile_decides_holds r _).1.2 (.negated List.mem_cons_self rfl ?_)
    exact .nested (List.mem_cons_of_mem _ List.mem_cons_self)

end Reshape
