import Reshape.Proofs.Node.Grouping
import Reshape.Proofs.Node.Sorted
import Reshape.Proofs.Vocabulary.Shuffle

/-!
# Nodes and the order of fields in records

A node whose mappers, folds and filter do not see the order of fields does not see it either
(`Node.KeepsShuffled.apply`): reading and resolving go by name, group keys are canonical texts, and
what sorting compares does not look into objects. The one exception is a node that copies leftovers
by name into an array, because the array has nothing but their order.
-/

namespace Reshape

open Value (Shuffled shuffled_refl SameKeys)

/-- Whether a mapper makes shuffled values of shuffled values. -/
def KeepsShuffled (mapper : Mapper) : Prop :=
  ∀ v w, Option.Rel Shuffled v w → Option.Rel Shuffled (mapper v) (mapper w)

/-! ## Leftovers -/

section Keyed

variable {κ : Type} {xs ys : List (κ × Value)}

theorem Value.SameKeys.refl (xs : List (κ × Value)) : SameKeys xs xs :=
  List.forall₂_same.2 fun _ _ => ⟨rfl, shuffled_refl _⟩

/-- A selection by key keeps the keys the same. -/
theorem Value.SameKeys.filterMap {mapper : Mapper} (h : SameKeys xs ys) (hm : KeepsShuffled mapper)
    (dropped : κ → Bool) :
    SameKeys
      (xs.filterMap fun p => if dropped p.1 then none else (mapper (some p.2)).map (p.1, ·))
      (ys.filterMap fun p => if dropped p.1 then none else (mapper (some p.2)).map (p.1, ·)) := by
  refine List.rel_filterMap (fun p q hpq => ?_) h
  rw [hpq.1]
  split
  · exact .none
  · exact rel_map (hm _ _ (.some hpq.2)) fun _ _ hvw => ⟨rfl, hvw⟩

/-- Shuffled values that are numbered are under the same keys. -/
theorem Value.sameKeys_mapIdx {as bs : List Value} (h : List.Forall₂ Shuffled as bs)
    (number : Nat → κ) :
    SameKeys (as.mapIdx fun i v => (number i, v)) (bs.mapIdx fun i v => (number i, v)) := by
  induction h generalizing number with
  | nil => exact .nil
  | cons hvw _ ih =>
    rw [List.mapIdx_cons, List.mapIdx_cons]
    exact .cons ⟨rfl, hvw⟩ (ih fun i => number (i + 1))

end Keyed

/-- Whether leftovers are shuffled as far as the output may show it: an object shows them under
their texts, an array one after the other. -/
def RestShuffled : KeyKind → List (Key × Value) → List (Key × Value) → Prop
  | .name, xs, ys => ∃ zs, SameKeys xs zs ∧ Shuffle (fun p => p.1.text) zs ys
  | .position, xs, ys => SameKeys xs ys

namespace RestShuffled

variable {dest : KeyKind} {xs ys : List (Key × Value)}

theorem of_sameKeys (h : SameKeys xs ys) : RestShuffled dest xs ys := by
  cases dest with
  | name => exact ⟨ys, h, .refl ys⟩
  | position => exact h

theorem exists_shuffle (h : RestShuffled dest xs ys) :
    ∃ zs, SameKeys xs zs ∧ Shuffle (fun p => p.1.text) zs ys := by
  cases dest with
  | name => exact h
  | position => exact ⟨ys, h, .refl ys⟩

theorem restKey_eq (h : RestShuffled dest xs ys) : restKey xs = restKey ys := by
  obtain ⟨zs, hsame, hshuffle⟩ := h.exists_shuffle
  have htexts : restTexts xs = restTexts zs :=
    map_eq_of_forall₂ (hsame.imp fun p q hpq => by rw [hpq.1, hpq.2.canonicalText_eq])
  rw [restKey_eq_iff, htexts]
  exact hshuffle.perm.map _

end RestShuffled

/-! ## Rows -/

/-- Whether rows hold shuffled values, and shuffled leftovers. -/
structure Row.Shuffled (dest : KeyKind) (a b : Row) : Prop where
  values : List.Forall₂ (Option.Rel Value.Shuffled) a.values b.values
  rest : RestShuffled dest a.rest b.rest

namespace Row.Shuffled

variable {dest : KeyKind} {a b : Row}

theorem value (h : Row.Shuffled dest a b) (field : Nat) :
    Option.Rel Value.Shuffled (a.value field) (b.value field) := by
  have hrel := forall₂_getElem? h.values field
  unfold Row.value
  generalize a.values[field]? = v, b.values[field]? = w at hrel
  cases hrel with
  | none => exact .none
  | some hvw => exact hvw

/-- Rows that are shuffled have one key. -/
theorem groupKey_eq (h : Row.Shuffled dest a b) (folds : Folds) :
    groupKey folds a = groupKey folds b := by
  have htexts : a.values.map (Option.map Value.canonicalText) =
      b.values.map (Option.map Value.canonicalText) := by
    refine map_eq_of_forall₂ (h.values.imp fun v w hvw => ?_)
    exact eq_of_rel_eq (rel_map hvw fun _ _ h => h.canonicalText_eq)
  have hfields : ∀ row : Row, fieldsKey folds row.values =
      (folds.zip (row.values.map (Option.map Value.canonicalText))).filterMap fun p =>
        if p.1.isNone then some p.2 else none := by
    intro row
    rw [fieldsKey, List.zip_map_right, List.filterMap_map]
    rfl
  rw [groupKey_eq_append, groupKey_eq_append, hfields, hfields, htexts, h.rest.restKey_eq]

/-- Rows that are shuffled compare to shuffled rows in one way. -/
theorem compareRows_eq {a' b' : Row} (h : Row.Shuffled dest a b) (h' : Row.Shuffled dest a' b')
    (keys : List SortKey) : compareRows keys a a' = compareRows keys b b' := by
  have hshell : ∀ {v w : Option Value}, Option.Rel Value.Shuffled v w →
      v.map Value.shell = w.map Value.shell :=
    fun hvw => eq_of_rel_eq (rel_map hvw fun _ _ h => h.shell_eq)
  have hcompare : ∀ field, compareForSort (a.value field) (a'.value field) =
      compareForSort (b.value field) (b'.value field) := by
    intro field
    rw [← compareForSort_map_shell, hshell (h.value field), hshell (h'.value field),
      compareForSort_map_shell]
  induction keys with
  | nil => rfl
  | cons key keys ih =>
    rw [compareRows, compareRows, ih, SortKey.compareRows, SortKey.compareRows, hcompare]

end Row.Shuffled

section Lists

variable {dest : KeyKind} {as bs : List Row} {folds : Folds}

theorem mergeGroup_shuffled (h : List.Forall₂ (Row.Shuffled dest) as bs)
    (hfolds : ∀ f, some f ∈ folds → ¬f.ShowsOrder) :
    Row.Shuffled dest (mergeGroup folds as) (mergeGroup folds bs) := by
  have hfirst : Row.Shuffled dest (as.headD ⟨[], []⟩) (bs.headD ⟨[], []⟩) := by
    cases h with
    | nil => exact ⟨.nil, .of_sameKeys .nil⟩
    | cons hrow _ => exact hrow
  refine ⟨forall₂_map_same ?_, hfirst.rest⟩
  rintro ⟨fold, field⟩ hmem
  cases fold with
  | none => exact hfirst.value field
  | some f =>
    have hf := hfolds f (List.fst_mem_of_mem_zipIdx hmem)
    exact .some (Fold.run_shuffled hf (List.rel_filterMap (fun _ _ hrow => hrow.value field) h))

/-- Shuffled rows fall into the same groups. -/
theorem foldRows_shuffled (h : List.Forall₂ (Row.Shuffled dest) as bs)
    (hfolds : ∀ f, some f ∈ folds → ¬f.ShowsOrder) :
    List.Forall₂ (Row.Shuffled dest) (foldRows folds as) (foldRows folds bs) := by
  obtain ⟨pairs, rfl, rfl⟩ := exists_pairs h
  have hkeys : groupsBy (groupKey folds ∘ fun p : { p : Row × Row // _ } => p.1.1) pairs =
      groupsBy (groupKey folds ∘ fun p => p.1.2) pairs :=
    congrArg (groupsBy · pairs) (funext fun p => p.2.groupKey_eq folds)
  rw [foldRows_eq, foldRows_eq, groupsBy_map, groupsBy_map, hkeys, List.map_map, List.map_map]
  refine forall₂_map_same fun group _ => mergeGroup_shuffled (forall₂_map_same ?_) hfolds
  exact fun p _ => p.2

/-- Shuffled rows are sorted in the same way. -/
theorem sortRows_shuffled (h : List.Forall₂ (Row.Shuffled dest) as bs) (keys : List SortKey) :
    List.Forall₂ (Row.Shuffled dest) (sortRows keys as) (sortRows keys bs) := by
  obtain ⟨pairs, rfl, rfl⟩ := exists_pairs h
  have hcompare : (fun p q : { p : Row × Row // Row.Shuffled dest p.1 p.2 } =>
      compareRows keys p.1.1 q.1.1) = fun p q => compareRows keys p.1.2 q.1.2 :=
    funext fun p => funext fun q => p.2.compareRows_eq q.2 keys
  rw [sortRows, sortRows, stableSort_map, stableSort_map, hcompare]
  exact forall₂_map_same fun p _ => p.2

end Lists

/-! ## Writing -/

section Writing

variable {a b : Row}

theorem writeObject_shuffled (h : Row.Shuffled .name a b) (dests : List Key) :
    (Value.object (writeObject dests a)).Shuffled (.object (writeObject dests b)) := by
  obtain ⟨zs, hsame, hshuffle⟩ := h.rest
  have hrest : SameKeys (a.rest.map fun p => (p.1.text, p.2))
      (zs.map fun p => (p.1.text, p.2)) := by
    refine List.rel_map (fun p q hpq => ?_) hsame
    exact ⟨congrArg Key.text hpq.1, hpq.2⟩
  have htexts : Shuffle (fun p : String × Value => p.1) (zs.map fun p => (p.1.text, p.2))
      (b.rest.map fun p => (p.1.text, p.2)) := hshuffle.map fun _ => rfl
  exact ⟨_, Value.shuffledFields_iff_sameKeys.2
    (List.rel_append (forall₂_filterMap_zip h.values Key.text dests) hrest), htexts.append_left _⟩

theorem layoutWrite_shuffled (h : Row.Shuffled .position a b) (layout : Layout) :
    (Value.array (layout.write a)).Shuffled (.array (layout.write b)) := by
  have hrest : SameKeys a.rest b.rest := h.rest
  refine Value.shuffledItems_iff_forall₂.2 (List.rel_append (List.rel_append ?_ ?_) ?_)
  · rw [List.mapIdx_eq_zipIdx_map, List.mapIdx_eq_zipIdx_map]
    refine forall₂_map_same fun p _ => rel_getD ?_ (shuffled_refl .null)
    cases p.1 with
    | none => exact hrest.lookup _
    | some field => exact h.value field
  · exact forall₂_filterMap_same fun field _ => h.value field
  · refine List.rel_filterMap (fun p q hpq => ?_) hrest
    dsimp only
    rw [hpq.1]
    split
    · exact .none
    · exact .some hpq.2

end Writing

/-! ## Nodes -/

/-- Whether a field maps shuffled values to shuffled values and its aggregation, if it has one, does
not show the order of fields. -/
structure Field.KeepsShuffled (field : Field) : Prop where
  mapper : Reshape.KeepsShuffled field.mapper
  aggregation : ∀ a, field.aggregation = some a → ¬a.ShowsOrder

/-- Whether a node is made of fields and a filter that do not see the order of fields, and does not
copy leftovers by name into an array. -/
structure Node.KeepsShuffled (node : Node) : Prop where
  fields : ∀ f ∈ node.fields, f.KeepsShuffled
  remaining : ∀ mapper, node.remaining = some mapper → Reshape.KeepsShuffled mapper
  passes : ∀ v w, Value.Shuffled v w → node.passes v = node.passes w
  order : node.strategy = ⟨.name, .position⟩ → node.remaining = none

namespace Node

variable {node : Node} {v w : Value}

/-- By position, the entries of shuffled records are under the same keys. -/
theorem sameKeys_entries_position (h : v.Shuffled w) :
    SameKeys (KeyKind.position.entries v) (KeyKind.position.entries w) := by
  cases v with
  | array as =>
    obtain ⟨bs, rfl, hitems⟩ := h.exists_items
    exact Value.sameKeys_mapIdx hitems fun i => Key.position (Int64.ofNat i)
  | object as =>
    obtain ⟨bs, cs, rfl, -⟩ := h.exists_fields
    exact .cons ⟨rfl, h⟩ .nil
  | _ =>
    obtain rfl := h.eq_of_isTerminal rfl
    exact .refl _

/-- By name, they are shuffled. -/
theorem restShuffled_entries_name (h : v.Shuffled w) :
    RestShuffled .name (KeyKind.name.entries v) (KeyKind.name.entries w) := by
  cases v with
  | object as =>
    obtain ⟨bs, cs, rfl, hfields, hshuffle⟩ := h.exists_fields
    have hentries : Shuffle (fun p : Key × Value => p.1.text)
        (cs.map fun p => (Key.name p.1, p.2)) (bs.map fun p => (Key.name p.1, p.2)) :=
      hshuffle.map fun _ => rfl
    refine ⟨cs.map fun p => (.name p.1, p.2), List.rel_map (fun p q hpq => ?_) hfields, hentries⟩
    exact ⟨congrArg Key.name hpq.1, hpq.2⟩
  | array as =>
    obtain ⟨bs, rfl, -⟩ := h.exists_items
    exact .of_sameKeys .nil
  | _ =>
    obtain rfl := h.eq_of_isTerminal rfl
    exact .of_sameKeys (.refl _)

theorem leftovers_shuffled {mapper : Mapper} (hmapper : Reshape.KeepsShuffled mapper)
    (hstrategy : node.strategy ≠ ⟨.name, .position⟩) (h : v.Shuffled w) :
    RestShuffled node.strategy.dest (node.leftovers mapper v) (node.leftovers mapper w) := by
  have hread : (node.fields.map fun f => f.source.resolve v) =
      node.fields.map fun f => f.source.resolve w :=
    List.map_congr_left fun f _ => h.resolve_eq f.source
  let dropped (key : Key) : Bool :=
    (node.fields.map fun f => f.source.resolve w).contains key || node.claims key
  let select (p : Key × Value) : Option (Key × Value) :=
    if dropped p.1 then none else (mapper (some p.2)).map (p.1, ·)
  have hleft : node.leftovers mapper v =
      (node.strategy.source.entries v).filterMap select := by
    rw [leftovers, hread]
  have hright : node.leftovers mapper w =
      (node.strategy.source.entries w).filterMap select := rfl
  rw [hleft, hright]
  cases hsource : node.strategy.source with
  | position =>
    exact .of_sameKeys ((sameKeys_entries_position h).filterMap hmapper dropped)
  | name =>
    have hdest : node.strategy.dest = .name := by
      cases hdest : node.strategy.dest with
      | name => rfl
      | position => exact absurd (congrArg₂ Strategy.mk hsource hdest) hstrategy
    obtain ⟨zs, hsame, hshuffle⟩ := restShuffled_entries_name h
    rw [hdest]
    refine ⟨zs.filterMap select, hsame.filterMap hmapper dropped, hshuffle.filterMap ?_⟩
    intro p q hq
    obtain ⟨-, hq⟩ := Option.ite_none_left_eq_some.1 hq
    obtain ⟨v, -, rfl⟩ := Option.map_eq_some_iff.1 hq
    rfl

/-- The rows of shuffled records are shuffled. -/
theorem extract_shuffled (hnode : node.KeepsShuffled) (h : v.Shuffled w) :
    Option.Rel (Row.Shuffled node.strategy.dest) (node.extract v) (node.extract w) := by
  cases hterminal : v.isTerminal with
  | true =>
    obtain rfl := h.eq_of_isTerminal hterminal
    rw [extract, if_pos hterminal]
    refine .some ⟨forall₂_map_same fun f hf => ?_, .of_sameKeys .nil⟩
    exact rel_or ((hnode.fields f hf).mapper _ _ (.some h)) (.some (shuffled_refl .null))
  | false =>
    have hvalues : List.Forall₂ (Option.Rel Value.Shuffled)
        (node.fields.map fun f => f.mapper (f.source.read v))
        (node.fields.map fun f => f.mapper (f.source.read w)) :=
      forall₂_map_same fun f hf => (hnode.fields f hf).mapper _ _ (h.read f.source)
    have habsent : (node.fields.map fun f => f.mapper (f.source.read v)).any Option.isNone =
        (node.fields.map fun f => f.mapper (f.source.read w)).any Option.isNone := by
      have hsame := map_eq_of_forall₂ (hvalues.imp fun _ _ h => isNone_eq_of_rel h)
      simpa [List.any_map] using congrArg (List.any · id) hsame
    rw [extract, extract, hterminal, ← h.isTerminal_eq, hterminal, if_neg Bool.false_ne_true,
      if_neg Bool.false_ne_true]
    dsimp only
    rw [habsent]
    split
    · exact .none
    · refine .some ⟨hvalues, ?_⟩
      cases hremaining : node.remaining with
      | none => exact .of_sameKeys .nil
      | some mapper =>
        refine leftovers_shuffled (hnode.remaining mapper hremaining) (fun hstrategy => ?_) h
        rw [hnode.order hstrategy] at hremaining
        cases hremaining

theorem groupRows_shuffled (hnode : node.KeepsShuffled) {dest : KeyKind} {as bs : List Row}
    (h : List.Forall₂ (Row.Shuffled dest) as bs) :
    List.Forall₂ (Row.Shuffled dest) (node.groupRows as) (node.groupRows bs) := by
  unfold groupRows
  split
  · refine foldRows_shuffled h fun fold hfold => ?_
    obtain ⟨f, hf, hfold⟩ := List.mem_map.1 hfold
    obtain ⟨aggregation, haggregation, hfold⟩ := Option.bind_eq_some_iff.1 hfold
    have hshows := (hnode.fields f hf).aggregation aggregation haggregation
    cases aggregation with
    | group => cases hfold
    | fold f =>
      cases hfold
      exact hshows
  · exact h

theorem write_shuffled {a b : Row} (h : Row.Shuffled node.strategy.dest a b) :
    (node.write a).Shuffled (node.write b) := by
  rw [write, write]
  cases hdest : node.strategy.dest with
  | name => exact writeObject_shuffled (hdest ▸ h) node.dests
  | position => exact layoutWrite_shuffled (hdest ▸ h) (Layout.of node.dests)

theorem applyRecord_shuffled (hnode : node.KeepsShuffled) (h : v.Shuffled w) :
    Option.Rel Value.Shuffled (node.applyRecord v) (node.applyRecord w) := by
  rw [applyRecord, applyRecord, hnode.passes v w h, h.isTerminal_eq]
  split
  · exact .none
  · split
    · exact .some h
    · refine rel_bind (extract_shuffled hnode h) fun a b hrow => ?_
      have hrows := forall₂_getElem? (groupRows_shuffled hnode (.cons hrow .nil)) 0
      rw [← List.head?_eq_getElem?, ← List.head?_eq_getElem?] at hrows
      exact rel_bind hrows fun a b hrow => .some (write_shuffled hrow)

theorem applyTogether_shuffled (hnode : node.KeepsShuffled) {as bs : List Value}
    (h : List.Forall₂ Value.Shuffled as bs) :
    List.Forall₂ Value.Shuffled (node.applyTogether as) (node.applyTogether bs) := by
  have hrecords : List.Forall₂ Value.Shuffled
      (as.filter fun v => !v.isArray && node.passes v)
      (bs.filter fun v => !v.isArray && node.passes v) :=
    List.rel_filter (fun v w hvw => by simp only [hvw.isArray_eq, hnode.passes v w hvw]) h
  have hrows := List.rel_filterMap (fun _ _ hvw => extract_shuffled hnode hvw) hrecords
  exact List.rel_map (fun _ _ hrow => write_shuffled hrow)
    (sortRows_shuffled (groupRows_shuffled hnode hrows) node.sortKeys)

/-- A node makes shuffled outputs of shuffled values. -/
theorem KeepsShuffled.apply (hnode : node.KeepsShuffled) (h : v.Shuffled w) :
    Option.Rel Value.Shuffled (node.apply v) (node.apply w) := by
  refine Value.Shuffled.induction ?_ ?_ ?_ h
  · intro v hv
    have hself := applyRecord_shuffled hnode (shuffled_refl v)
    cases v with
    | array items => cases hv
    | _ => exact hself
  · intro as bs hitems
    have hvalues := hitems.imp fun _ _ h => h.1
    rw [Node.apply, Node.apply]
    split
    · refine .some (Value.shuffledItems_iff_forall₂.2 ?_)
      split
      · rw [applyEach_eq_filterMap, applyEach_eq_filterMap]
        exact List.rel_filterMap (fun _ _ h => h.2) hitems
      · rw [applyArrays_eq_filterMap, applyArrays_eq_filterMap]
        refine List.rel_append (applyTogether_shuffled hnode hvalues)
          (List.rel_filterMap (fun _ _ h => h.2) (List.rel_filter (fun v w h => ?_) hitems))
        simp only [h.1.isArray_eq]
    · exact applyRecord_shuffled hnode (Value.shuffledItems_iff_forall₂.2 hvalues)
  · intro as bs cs hfields hshuffle
    refine applyRecord_shuffled hnode ⟨cs, Value.shuffledFields_iff_sameKeys.2 ?_, hshuffle⟩
    exact hfields.imp fun _ _ h => h.1

end Node

/-! ## Planned nodes -/

/-- The same for an entry, if it is a field. -/
def Entry.KeepsShuffled : Entry → Prop
  | .field f => f.KeepsShuffled
  | .exclusion _ => True

/-- The same for the mapper of leftovers, if they are copied. -/
def Remaining.KeepsShuffled : Remaining → Prop
  | .copied mapper => Reshape.KeepsShuffled mapper
  | .dropped | .unspecified => True

/-- A planned node keeps values shuffled if what it is planned from does. -/
theorem Node.keepsShuffled_plan {entries : List Entry} {remaining : Remaining}
    {filter : Option Test} (hentries : ∀ e ∈ entries, e.KeepsShuffled)
    (hremaining : remaining.KeepsShuffled)
    (hfilter : ∀ test, filter = some test → ∀ v w, Option.Rel Shuffled v w → test v = test w)
    (horder : (plan entries remaining filter).strategy = ⟨.name, .position⟩ →
      (plan entries remaining filter).remaining = none) :
    (plan entries remaining filter).KeepsShuffled where
  fields _ hf := hentries _ (Kept.mem_fields hf).1
  remaining mapper h := by
    cases remaining with
    | copied mapper' =>
      obtain rfl := Option.some_inj.1 h
      exact hremaining
    | dropped => cases h
    | unspecified =>
      obtain ⟨-, h⟩ := Option.ite_none_right_eq_some.1 h
      cases h
      exact fun _ _ h => h
  passes v w h := by
    cases filter with
    | none => rfl
    | some test => exact hfilter test rfl _ _ (.some h)
  order := horder

end Reshape
