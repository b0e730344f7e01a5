import Reshape.Proofs.Compile.Step

/-!
# How far a chain is broadcast

A tail that reads a name gives one value for every value that is no list (`Compiled.slot`), and its
node writes that value as a tuple, so a list of records becomes a list of tuples at every depth. The
step of the chain then takes the tuples off the records of the outermost list. Of a list inside the
list it takes the first member for the tuple, whatever that is: only the output of the first element
is left, still in its tuple.
-/

namespace Reshape

/-- Two selections from a list agree only element by element if one of them leaves nothing out. -/
theorem filterMap_eq_iff {α β : Type} {f g : α → Option β} (hg : ∀ x, (g x).isSome)
    {items : List α} : items.filterMap f = items.filterMap g ↔ ∀ x ∈ items, f x = g x := by
  induction items with
  | nil => simp
  | cons x xs ih =>
    obtain ⟨b, hb⟩ := Option.isSome_iff_exists.1 (hg x)
    rw [List.forall_mem_cons, List.filterMap_cons_some hb]
    cases ha : f x with
    | none =>
      have hfull : (xs.filterMap g).length = xs.length :=
        List.filterMap_length_eq_length.2 fun y _ => hg y
      have hshort := List.length_filterMap_le f xs
      rw [List.filterMap_cons_none ha, hb]
      refine iff_of_false (fun heq => ?_) (fun hall => nomatch hall.1)
      rw [heq, List.length_cons, hfull] at hshort
      omega
    | some a => rw [List.filterMap_cons_some ha, List.cons.injEq, hb, Option.some_inj, ih]

namespace Compiled

variable {tail : Compiled} {name : String}

/-- What a tail that reads a field makes of a value that is no list. -/
def slot (tail : Compiled) (name : String) (v : Value) : Value :=
  (tail.mapper (if v.isTerminal then some v else v.get? name)).getD .null

mutual

/-- What the node of a tail that reads a field writes. -/
def tupled (tail : Compiled) (name : String) : Value → Value
  | .array items => .array (tupledItems tail name items)
  | v => .array [tail.slot name v]

/-- The same for every element of a list. -/
def tupledItems (tail : Compiled) (name : String) : List Value → List Value
  | [] => []
  | v :: vs => tupled tail name v :: tupledItems tail name vs

end

theorem tupledItems_eq_map (items : List Value) :
    tail.tupledItems name items = items.map (tail.tupled name) := by
  induction items with
  | nil => rfl
  | cons v vs ih => rw [tupledItems, ih, List.map_cons]

theorem tupled_of_not_isArray {v : Value} (h : v.isArray = false) :
    tail.tupled name v = .array [tail.slot name v] := by
  cases v <;> first | rfl | simp [Value.isArray] at h

/-! ## The node of the tail -/

/-- The only field of the node of a tail that reads a field. -/
def stepField (tail : Compiled) (name : String) : Field :=
  ⟨.position 0, .name name, tail.mapper, none, none⟩

theorem stepKey_eq (h : tail.source = .key (.name name)) : tail.stepKey = .name name := by
  rw [stepKey, h]

theorem stepNode_eq (h : tail.source = .key (.name name)) :
    tail.stepNode = ⟨⟨.name, .position⟩, [tail.stepField name], [], none, none, false⟩ := by
  rw [stepNode_eq_of_key, stepKey_eq h]
  rfl

theorem slot_eq_outcome (h : tail.source = .key (.name name)) (v : Value) :
    tail.slot name v = tail.outcome v := by
  rw [outcome, stepKey_eq h, Key.given?_eq]
  rfl

theorem applyRecord_stepNode (h : tail.source = .key (.name name)) (v : Value) :
    tail.stepNode.applyRecord v = some (.array [tail.slot name v]) := by
  rw [applyRecord_stepNode_eq, slot_eq_outcome h]

mutual

/-- The node of the tail writes a tuple for every value that is no list, at every depth. -/
theorem apply_stepNode (h : tail.source = .key (.name name)) (v : Value) :
    tail.stepNode.apply v = some (tail.tupled name v) := by
  cases v with
  | array items =>
    have hnames : tail.stepNode.strategy.source = .name := by rw [stepNode_eq h]
    have hplain : tail.stepNode.isPlain = true := by rw [stepNode_eq h]; rfl
    rw [Node.apply_array_of_isPlain hnames hplain, ← Node.applyEach_eq_filterMap,
      applyEach_stepNode h items, tupled]
  | _ => exact applyRecord_stepNode h _

theorem applyEach_stepNode (h : tail.source = .key (.name name)) (items : List Value) :
    tail.stepNode.applyEach items = tail.tupledItems name items := by
  cases items with
  | nil => rfl
  | cons v vs => rw [Node.applyEach, apply_stepNode h v, applyEach_stepNode h vs]; rfl

end

/-! ## The step -/

/-- What the step takes off the output for an element. -/
def firstWritten (tail : Compiled) (name : String) (v : Value) : Option Value :=
  firstSlot (tail.tupled name v)

/-- What the step makes of a list: of an inner list it keeps the tuple of the first element. -/
theorem step_array (h : tail.source = .key (.name name)) (items : List Value) :
    tail.step (.array items) =
      some (.array (items.filterMap (tail.firstWritten name))) := by
  have hnames : tail.stepNode.distributes = true :=
    Node.distributes_of_source_name (by rw [stepNode_eq h])
  simp [step, apply_stepNode h, hnames, Value.isArray, tupled, tupledItems_eq_map,
    List.filterMap_map]
  rfl

theorem step_of_not_isArray (h : tail.source = .key (.name name)) {v : Value}
    (hv : v.isArray = false) : tail.step v = some (tail.slot name v) := by
  rw [step_of_record (.inl hv), slot_eq_outcome h]

theorem firstWritten_of_not_isArray {v : Value} (hv : v.isArray = false) :
    tail.firstWritten name v = some (tail.slot name v) := by
  rw [firstWritten, tupled_of_not_isArray hv]
  rfl

theorem firstWritten_array (items : List Value) :
    tail.firstWritten name (.array items) = items.head?.map (tail.tupled name) := by
  rw [firstWritten, tupled, tupledItems_eq_map, firstSlot, List.head?_map]

theorem firstWritten_eq_none_iff {v : Value} :
    tail.firstWritten name v = none ↔ v = .array [] := by
  cases v with
  | array items => simp [firstWritten_array]
  | _ => simp [firstWritten, tupled, firstSlot]

theorem step_isSome (h : tail.source = .key (.name name)) (v : Value) :
    (tail.step v).isSome := by
  cases v with
  | array items => rw [step_array h]; rfl
  | _ => rw [step_of_not_isArray h rfl]; rfl

/-- Whether nothing of an inner list is lost when its elements are broadcast: its first element is
all it holds, as far as outputs go. -/
def KeepsAll (tail : Compiled) (name : String) : List Value → Prop
  | [] => False
  | .array inner :: vs =>
    inner.tail.map (tail.tupled name) = vs.filterMap (tail.firstWritten name)
  | _ :: vs => ∀ v ∈ vs, v = .array []

theorem keepsAll_cons_of_not_isArray {v : Value} (hv : v.isArray = false) (vs : List Value) :
    tail.KeepsAll name (v :: vs) ↔ ∀ w ∈ vs, w = .array [] := by
  cases v <;> first | rfl | simp [Value.isArray] at hv

/-- An inner list is kept exactly when its first tuple is what the step makes of the list. -/
theorem keepsAll_iff (h : tail.source = .key (.name name)) (items : List Value) :
    tail.KeepsAll name items ↔
      tail.firstWritten name (.array items) = tail.step (.array items) := by
  rw [firstWritten_array, step_array h]
  rcases items with _ | ⟨v, vs⟩
  · simp [KeepsAll]
  rw [List.head?_cons, Option.map_some, Option.some_inj]
  by_cases hv : v.isArray = false
  · rw [keepsAll_cons_of_not_isArray hv,
      List.filterMap_cons_some (firstWritten_of_not_isArray hv), tupled_of_not_isArray hv]
    rw [Value.array.injEq, List.cons_inj_right, eq_comm, List.filterMap_eq_nil_iff]
    simp only [firstWritten_eq_none_iff]
  · obtain ⟨inner, rfl⟩ := Value.exists_items (by simpa using hv)
    rw [KeepsAll, tupled, tupledItems_eq_map, Value.array.injEq]
    rcases inner with _ | ⟨w, ws⟩
    · rw [List.filterMap_cons_none (firstWritten_eq_none_iff.2 rfl)]
      rfl
    · have hfirst : tail.firstWritten name (.array (w :: ws)) = some (tail.tupled name w) :=
        firstWritten_array _
      rw [List.filterMap_cons_some hfirst, List.map_cons, List.cons_inj_right, List.tail_cons]

/-- The step goes through a list element by element exactly when each inner list is kept. -/
theorem step_array_eq_iff (h : tail.source = .key (.name name)) (items : List Value) :
    tail.step (.array items) = some (.array (items.filterMap tail.step)) ↔
      ∀ inner, .array inner ∈ items → tail.KeepsAll name inner := by
  rw [step_array h, Option.some_inj, Value.array.injEq, filterMap_eq_iff (step_isSome h)]
  constructor
  · intro hall inner hmem
    exact (keepsAll_iff h inner).2 (hall _ hmem)
  · intro hall v hmem
    by_cases hv : v.isArray = false
    · rw [firstWritten_of_not_isArray hv, step_of_not_isArray h hv]
    · obtain ⟨inner, rfl⟩ := Value.exists_items (by simpa using hv)
      exact (keepsAll_iff h inner).1 (hall inner hmem)

/-- A list of records is kept exactly when it holds one. -/
theorem keepsAll_records_iff {items : List Value} (h : ∀ v ∈ items, v.isArray = false) :
    tail.KeepsAll name items ↔ items.length = 1 := by
  rcases items with _ | ⟨v, _ | ⟨w, ws⟩⟩
  · simp [KeepsAll]
  · simp [keepsAll_cons_of_not_isArray (h v List.mem_cons_self)]
  · rw [keepsAll_cons_of_not_isArray (h v List.mem_cons_self)]
    refine iff_of_false (fun hempty => ?_) (by simp)
    have hw := h w (List.mem_cons_of_mem _ List.mem_cons_self)
    rw [hempty w List.mem_cons_self] at hw
    cases hw

/-- What a chain makes of a list when its tail reads a field: for every record its own value and for
every inner list the tuple of its first element. This is the list of what the chain makes of the
elements exactly when each inner list is kept. -/
theorem chain_broadcasts_iff (tail : Compiled) (name : String) (h : tail.source = .key (.name name))
    (items : List Value) :
    (∀ v, v.isArray = false → tail.step v = some (tail.slot name v)) ∧
      tail.step (.array items) = some (.array (items.filterMap (tail.firstWritten name))) ∧
      (tail.step (.array items) = some (.array (items.filterMap tail.step)) ↔
        ∀ inner, .array inner ∈ items → tail.KeepsAll name inner) :=
  ⟨fun _ hv => step_of_not_isArray h hv, step_array h items, step_array_eq_iff h items⟩

/-- The second record of an inner list is lost. -/
theorem chain_drops_inner_record :
    let tail := reading (.key (.name "a"))
    let inner := [Value.object [("a", .int 1)], .object [("a", .int 2)]]
    tail.step (.array [.array inner]) = some (.array [.array [.int 1]]) ∧
      [Value.array inner].filterMap tail.step = [.array [.int 1, .int 2]] ∧
      tail.step (.array [.array inner]) ≠
        some (.array ([Value.array inner].filterMap tail.step)) := by
  intro tail inner
  obtain ⟨hrecord, hlist, hiff⟩ := chain_broadcasts_iff tail "a" rfl [.array inner]
  have hinner := (chain_broadcasts_iff tail "a" rfl inner).2.1
  have hrecords : ∀ v ∈ inner, v.isArray = false := by decide
  refine ⟨hlist, ?_, fun hlost => ?_⟩
  · rw [List.filterMap_cons_some hinner]
    rfl
  · have hkeeps := hiff.1 hlost inner List.mem_cons_self
    exact absurd ((keepsAll_records_iff hrecords).1 hkeeps) (by decide)

end Compiled

end Reshape
