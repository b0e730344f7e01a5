import Reshape.Proofs.Compile.Basic
import Reshape.Proofs.Node.Basic
import Reshape.Value.Identity
import Reshape.Vocabulary.Standard

/-!
# What a chain makes of a value

The tail of a chain is given a part of what the head selected (`Key.given?`): of a terminal value
the value itself, of an object a field or, by position, the object, of a list an element. What it
makes of that, null if nothing, is the value of the chain. To a tail that reads names a list is a
list of records, and the chain has a value for each of them.

The tail does not run like that. It is the one field of a node that writes tuples, and the tuples
are taken off again (`Compiled.step`). Such a node makes one tuple of every record, whatever key it
reads (`applyRecord_stepNode_eq`), and nothing is lost with it.
-/

namespace Reshape

/-- What a key selects for the tail of a chain. A list is no record to a name. -/
def Key.given? : Key → Value → Option Value
  | .name field, .object fields => fields.lookup field
  | .position n, .object fields => if n = 0 ∨ n = -1 then some (.object fields) else none
  | .name _, .array _ => none
  | .position n, .array items =>
    if 0 ≤ n.toInt then items[n.toInt.toNat]? else items.reverse[n.toInt.natAbs - 1]?
  | _, v => some v

theorem Key.given?_eq (k : Key) (v : Value) :
    k.given? v = if v.isTerminal then some v else k.read v := by
  cases v with
  | array items =>
    cases k with
    | name field => rfl
    | position n => exact (Value.at?_array items n).symm
  | object fields => cases k <;> rfl
  | _ => cases k <;> rfl

namespace Compiled

variable {tail : Compiled} {v : Value}

/-- The key that the tail of a chain reads: the first position if it names none. -/
def stepKey (tail : Compiled) : Key :=
  match tail.source with
  | .key k => k
  | _ => .position 0

/-- What the tail of a chain makes of a record. -/
def outcome (tail : Compiled) (v : Value) : Value :=
  (tail.mapper (tail.stepKey.given? v)).getD .null

/-! ## The node of the tail -/

theorem stepNode_eq_of_key (tail : Compiled) :
    tail.stepNode = ⟨⟨tail.stepKey.kind, .position⟩,
      [⟨.position 0, tail.stepKey, tail.mapper, none, none⟩], [], none, none, false⟩ := by
  have hentry : tail.stepEntry = .field ⟨.position 0, tail.stepKey, tail.mapper, none, none⟩ := rfl
  simp [stepNode, hentry, Node.plan, Strategy.choose, Kept.of, Key.kind]

/-- The node of the tail makes a tuple of every record, and takes none for absent. -/
theorem applyRecord_stepNode_eq (tail : Compiled) (v : Value) :
    tail.stepNode.applyRecord v = some (.array [tail.outcome v]) := by
  have hlayout : Layout.of [.position 0] = ⟨[some 0], []⟩ := rfl
  have hwrite : ∀ value : Option Value,
      (Layout.of [.position 0]).write ⟨[value], []⟩ = [value.getD .null] := by
    intro value
    rw [hlayout]
    simp [Layout.write, Row.value]
  rw [stepNode_eq_of_key, outcome, Key.given?_eq]
  cases hterminal : v.isTerminal with
  | true =>
    simp [Node.applyRecord, Node.passes, Node.extract, hterminal, Node.broadcast, Node.groupRows,
      Node.isGrouped, Node.write, Node.dests, hwrite]
  | false =>
    simp [Node.applyRecord, Node.passes, Node.extract, hterminal, Node.groupRows, Node.isGrouped,
      Node.write, Node.dests, hwrite]

/-! ## The step -/

/-- The step makes of one record what the tail makes of it. -/
theorem step_of_record (h : v.isArray = false ∨ tail.stepKey.kind = .position) :
    tail.step v = some (tail.outcome v) := by
  have hwritten : tail.stepNode.apply v = some (.array [tail.outcome v]) := by
    rw [← applyRecord_stepNode_eq]
    rcases h with h | h
    · exact Node.apply_of_not_isArray _ h
    · exact Node.apply_of_source_position _ (by rw [stepNode_eq_of_key, h]) v
  have honce : (tail.stepNode.distributes && v.isArray) = false := by
    rcases h with h | h
    · rw [h, Bool.and_false]
    · rw [stepNode_eq_of_key, Node.distributes, h]
      rfl
  simp [step, hwritten, honce, firstSlot]

/-- To a tail that reads names a list is a list of records, each with a tuple to take off. -/
theorem step_array_of_names (h : tail.stepKey.kind = .name) (items : List Value) :
    tail.step (.array items) =
      some (.array ((items.filterMap tail.stepNode.apply).filterMap firstSlot)) := by
  have hnode := stepNode_eq_of_key tail
  have hnames : tail.stepNode.strategy.source = .name := by rw [hnode, h]
  have hplain : tail.stepNode.isPlain = true := by rw [hnode]; rfl
  simp [step, Node.apply_array_of_isPlain hnames hplain, Node.distributes_of_source_name hnames,
    Value.isArray]

/-- The step makes of a list of records what the tail makes of each. -/
theorem step_of_records (h : tail.stepKey.kind = .name) {items : List Value}
    (hitems : ∀ w ∈ items, w.isArray = false) :
    tail.step (.array items) = some (.array (items.map tail.outcome)) := by
  have htuples : items.filterMap tail.stepNode.apply =
      items.map fun w => .array [tail.outcome w] := by
    rw [← List.filterMap_eq_map]
    refine List.filterMap_congr fun w hw => ?_
    rw [Node.apply_of_not_isArray _ (hitems w hw), applyRecord_stepNode_eq, Function.comp_apply]
  rw [step_array_of_names h, htuples, List.filterMap_map, ← List.filterMap_eq_map]
  rfl

/-- The step always makes something, also of lists inside a list. -/
theorem step_ne_none (tail : Compiled) (v : Value) : tail.step v ≠ none := by
  by_cases h : v.isArray = false ∨ tail.stepKey.kind = .position
  · rw [step_of_record h]
    exact Option.some_ne_none _
  · obtain ⟨harray, hkind⟩ := not_or.1 h
    obtain ⟨items, rfl⟩ := Value.exists_items (by simpa using harray)
    have hname : tail.stepKey.kind = .name := by
      cases hk : tail.stepKey.kind with
      | name => rfl
      | position => exact absurd hk hkind
    rw [step_array_of_names hname]
    exact Option.some_ne_none _

end Compiled

/-! ## Chains -/

variable {r : Resolver}

/-- A chain gives nothing exactly when its head gives nothing. Otherwise it gives what the tail
makes of the value that the head gives, of a terminal value, of an object, and of a list by
position; to a tail that reads names a list without lists inside is a list of records, and the chain
gives as many values, one for each. -/
theorem Pipeline.mapper_chain (head tail : Selector) {c : Compiled}
    (h : (Pipeline.chain head tail).compile r = .ok c) :
    ∃ first last, head.compile r = .ok first ∧ tail.compile r = .ok last ∧
      c.source = first.source ∧
      ∀ input, (c.mapper input = none ↔ first.mapper input = none) ∧
        ∀ v, first.mapper input = some v →
          (v.isArray = false ∨ last.stepKey.kind = .position →
            c.mapper input = some (last.outcome v)) ∧
          ∀ items, v = .array items → last.stepKey.kind = .name →
            (∀ w ∈ items, w.isArray = false) →
            c.mapper input = some (.array (items.map last.outcome)) := by
  obtain ⟨first, last, hfirst, -, hlast, -, rfl⟩ := compile_chain_eq_ok.1 h
  refine ⟨first, last, hfirst, hlast, rfl, fun input => ⟨?_, fun v hv => ⟨?_, ?_⟩⟩⟩
  · show (first.mapper input).bind last.step = none ↔ first.mapper input = none
    cases hinput : first.mapper input with
    | none => exact iff_of_true rfl rfl
    | some v => exact iff_of_false (last.step_ne_none v) (Option.some_ne_none v)
  · intro hrecord
    show (first.mapper input).bind last.step = some (last.outcome v)
    rw [hv, Option.bind_some, Compiled.step_of_record hrecord]
  · rintro items rfl hnames hitems
    show (first.mapper input).bind last.step = some (.array (items.map last.outcome))
    rw [hv, Option.bind_some, Compiled.step_of_records hnames hitems]

/-- The names of the animals of a shelter: of a list of animals, one of which is no object and one
of which has no name, of a single animal, and of no animal at all. -/
theorem Pipeline.mapper_names_of_animals :
    let head := Selector.pipeline (.access (.name "animals"))
    let tail := Selector.pipeline (.access (.name "name"))
    let dog := Value.object [("name", .string "Luna"), ("weight", .int 10)]
    let unnamed := Value.object [("weight", .int 5)]
    ∃ c, (Pipeline.chain head tail).compile .standard = .ok c ∧
      c.source = .key (.name "animals") ∧
      c.mapper (some (.array [dog, .string "Ola", unnamed])) =
        some (.array [.string "Luna", .string "Ola", .null]) ∧
      c.mapper (some dog) = some (.string "Luna") ∧ c.mapper none = none := by
  intro head tail dog unnamed
  have hread : ∀ name : String,
      (Selector.pipeline (.access (.name name))).compile .standard =
        .ok (.reading (.key (.name name))) := by
    intro name
    rw [Selector.compile, Pipeline.compile]
  have hchain : (Pipeline.chain head tail).compile .standard =
      .ok (.chain (.reading (.key (.name "animals"))) (.reading (.key (.name "name")))) :=
    compile_chain_eq_ok.2 ⟨_, _, hread "animals", ReadFrom.noConfusion, hread "name",
      ReadFrom.noConfusion, rfl⟩
  obtain ⟨first, last, hfirst, hlast, hsource, hmeaning⟩ := mapper_chain head tail hchain
  obtain rfl := Except.ok.inj ((hread "animals").symm.trans hfirst)
  obtain rfl := Except.ok.inj ((hread "name").symm.trans hlast)
  refine ⟨_, hchain, hsource, ?_, ?_, ?_⟩
  · exact ((hmeaning _).2 _ rfl).2 _ rfl rfl (by decide)
  · exact ((hmeaning _).2 dog rfl).1 (.inl rfl)
  · exact (hmeaning none).1.2 rfl

end Reshape
