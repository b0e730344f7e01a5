import Reshape.Proofs.Query.Grammar
import Reshape.Proofs.Value.Shuffle
import Reshape.Value.Identity
import Mathlib.Logic.Relation

/-!
# Spellings of a query

Some values that differ are the same query. `Value.Respells` lists what may differ, one change at a
time: null and false both leave a field out, the tail of a chain may be an array of its own or stand
in that of its head, and the reserved keys of an object selector may stand anywhere among the
others. `Value.SameQuery` allows any number of these changes. That is all: two selectors parse to
the same syntax exactly if they are the same query (`Selector.parse_eq_iff_sameQuery`).

To show it, syntax is written back (`Selector.written`). Respelling does not change what a value
parses to, and every value can be respelled as what it parses to is written.
-/

namespace Reshape

/-! ## Respelling -/

/-- Whether a key of an object selector names no field. -/
def IsReserved (key : String) : Prop := key = selectAllKey ∨ key = filterKey

/-- One change in how a query is written, in it or in a selector inside it. -/
inductive Value.Respells : Value → Value → Prop where
  | null : Respells .null (.bool false)
  | splice {first : Value} {rest : List Value} (noName : first.toString? = none)
      (two : 2 ≤ rest.length) : Respells (.array [first, .array rest]) (.array (first :: rest))
  | reserved (before after : List (String × Value)) {p q : String × Value} (ne : p.1 ≠ q.1)
      (reserved : IsReserved p.1 ∨ IsReserved q.1) :
      Respells (.object (before ++ p :: q :: after)) (.object (before ++ q :: p :: after))
  | head {v w : Value} (tail : Value) (head : Respells v w) :
      Respells (.array [v, tail]) (.array [w, tail])
  | tail {first v w : Value} (noName : first.toString? = none) (tail : Respells v w) :
      Respells (.array [first, v]) (.array [first, w])
  | nested {fields fields' : List (String × Value)}
      (object : Respells (.object fields) (.object fields')) :
      Respells (.array [.object fields]) (.array [.object fields'])
  | field (before after : List (String × Value)) {key : String} {v w : Value}
      (ne : key ≠ filterKey) (selector : Respells v w) :
      Respells (.object (before ++ (key, v) :: after)) (.object (before ++ (key, w) :: after))

/-- Whether two values are the same query, differently written. -/
def Value.SameQuery : Value → Value → Prop := Relation.EqvGen Value.Respells

namespace Value

variable {v w : Value}

theorem SameQuery.refl (v : Value) : v.SameQuery v := Relation.EqvGen.refl v

theorem SameQuery.symm (h : v.SameQuery w) : w.SameQuery v := Relation.EqvGen.symm _ _ h

theorem SameQuery.trans {u : Value} (h : v.SameQuery w) (h' : w.SameQuery u) : v.SameQuery u :=
  Relation.EqvGen.trans _ _ _ h h'

theorem Respells.sameQuery (h : v.Respells w) : v.SameQuery w := Relation.EqvGen.rel _ _ h

/-- Names are spelled in one way. -/
theorem Respells.toString?_eq_none (h : v.Respells w) :
    v.toString? = none ∧ w.toString? = none := by
  cases h <;> exact ⟨rfl, rfl⟩

theorem Respells.isObject_eq (h : v.Respells w) : v.isObject = w.isObject := by
  cases h <;> rfl

/-- What a change of one selector does to a value around it, any number of changes do. -/
theorem SameQuery.around {f : Value → Value} (hf : ∀ v w, v.Respells w → (f v).SameQuery (f w))
    (h : v.SameQuery w) : (f v).SameQuery (f w) := by
  induction h with
  | rel v w h => exact hf v w h
  | refl v => exact .refl _
  | symm v w _ ih => exact ih.symm
  | trans v w u _ _ ih ih' => exact ih.trans ih'

theorem SameQuery.chain {v' w' : Value} (h : v.SameQuery w) (h' : v'.SameQuery w')
    (hv : v.toString? = none) : (Value.array [v, v']).SameQuery (.array [w, w']) :=
  (h'.around (f := fun u => .array [v, u]) fun _ _ h => (Respells.tail hv h).sameQuery).trans
    (h.around (f := fun u => .array [u, w']) fun _ _ h => (Respells.head w' h).sameQuery)

theorem SameQuery.field (before after : List (String × Value)) {key : String}
    (hkey : key ≠ filterKey) (h : v.SameQuery w) :
    (Value.object (before ++ (key, v) :: after)).SameQuery
      (.object (before ++ (key, w) :: after)) :=
  h.around (f := fun u => .object (before ++ (key, u) :: after)) fun _ _ h =>
    (Respells.field before after hkey h).sameQuery

theorem SameQuery.nested {fields fields' : List (String × Value)}
    (h : (Value.object fields).SameQuery (.object fields')) :
    (Value.array [.object fields]).SameQuery (.array [.object fields']) := by
  refine h.around (f := fun u => if u.isObject then .array [u] else u) fun v w h => ?_
  have hkind := h.isObject_eq
  cases hv : v.isObject with
  | false => simpa [hv, ← hkind] using h.sameQuery
  | true =>
    cases v with
    | object as =>
      cases w with
      | object bs => exact (Respells.nested h).sameQuery
      | _ => cases hkind
    | _ => cases hv

/-- An entry can be moved behind others with which it may change places. -/
theorem SameQuery.pass (before : List (String × Value)) (p : String × Value)
    (others after : List (String × Value))
    (h : ∀ q ∈ others, p.1 ≠ q.1 ∧ (IsReserved p.1 ∨ IsReserved q.1)) :
    (Value.object (before ++ p :: (others ++ after))).SameQuery
      (.object (before ++ (others ++ p :: after))) := by
  induction others generalizing before with
  | nil => exact .refl _
  | cons q others ih =>
    obtain ⟨⟨hne, hreserved⟩, h⟩ := List.forall_mem_cons.1 h
    have hswap := (Respells.reserved before (others ++ after) hne hreserved).sameQuery
    have hrest := ih (before ++ [q]) h
    rw [List.append_assoc, List.append_assoc] at hrest
    exact hswap.trans hrest

end Value

/-! ## Respelling keeps the syntax -/

namespace FieldSelector

/-- Two parts commute if one of them is no field. -/
theorem addPart_comm (f : FieldSelector) {a b : WrittenPart} (hne : a.key ≠ b.key)
    (h : (∀ key s, a ≠ .field key s) ∨ ∀ key s, b ≠ .field key s) :
    (f.addPart a).addPart b = (f.addPart b).addPart a := by
  cases a with
  | field key s =>
    cases b with
    | field key' s' => exact h.elim (fun h => absurd rfl (h key s)) fun h => absurd rfl (h key' s')
    | _ => rfl
  | remaining s =>
    cases b with
    | remaining s' => exact absurd rfl hne
    | _ => rfl
  | filter p =>
    cases b with
    | filter p' => exact absurd rfl hne
    | _ => rfl

theorem ne_field_of_isReserved {key : String} {v : Value} {part : WrittenPart}
    (hkey : IsReserved key) (h : WrittenPart.parse key v = .ok part) (key' : String)
    (s : Selector) : part ≠ .field key' s := by
  rintro rfl
  obtain ⟨rfl, hall, hfilter, -⟩ := WrittenPart.parse_eq_ok.1 h
  exact hkey.elim hall hfilter

/-- Keys with the same parse behind the same keys have the same parse. -/
theorem parse_append_congr (before : List (String × Value))
    {written written' : List (String × Value)}
    (h : ∀ f, parse written = .ok f ↔ parse written' = .ok f) (f : FieldSelector) :
    parse (before ++ written) = .ok f ↔ parse (before ++ written') = .ok f := by
  induction before generalizing f with
  | nil => exact h f
  | cons p before ih =>
    obtain ⟨key, v⟩ := p
    simp only [List.cons_append, parse_cons_eq_ok, ih]

theorem parse_swap {p q : String × Value} (after : List (String × Value)) (hne : p.1 ≠ q.1)
    (hreserved : IsReserved p.1 ∨ IsReserved q.1) {f : FieldSelector}
    (h : parse (p :: q :: after) = .ok f) : parse (q :: p :: after) = .ok f := by
  obtain ⟨a, ha, _, hrest, rfl⟩ := parse_cons_eq_ok.1 h
  obtain ⟨b, hb, g, hg, rfl⟩ := parse_cons_eq_ok.1 hrest
  have hkeys : b.key ≠ a.key := by
    rw [WrittenPart.key_of_parse ha, WrittenPart.key_of_parse hb]
    exact hne.symm
  have hcomm := g.addPart_comm hkeys
    (hreserved.symm.imp (ne_field_of_isReserved · hb) (ne_field_of_isReserved · ha))
  refine parse_cons_eq_ok.2 ⟨b, hb, _, parse_cons_eq_ok.2 ⟨a, ha, g, hg, rfl⟩, hcomm.symm⟩

end FieldSelector

theorem Selector.parse_object_eq_ok {written : List (String × Value)} {f : FieldSelector} :
    Selector.parse (.object written) = .ok (.fields f) ↔ FieldSelector.parse written = .ok f := by
  simp [Selector.parse, map_eq_ok]

/-- Respelling a selector does not change what it parses to. -/
theorem Value.Respells.parse_iff {v w : Value} (h : v.Respells w) (s : Selector) :
    Selector.parse v = .ok s ↔ Selector.parse w = .ok s := by
  induction h generalizing s with
  | null => rfl
  | @splice first rest noName two =>
    have hrest : rest ≠ [] := List.ne_nil_of_length_pos (by omega)
    rw [Selector.parse_chain_eq_ok noName (List.cons_ne_nil _ _),
      Selector.parse_chain_eq_ok noName hrest, Selector.parseRest_of_two_le two]
    rfl
  | reserved before after ne reserved =>
    simp only [Selector.parse, map_eq_ok]
    refine exists_congr fun f => and_congr_left' (FieldSelector.parse_append_congr before ?_ f)
    exact fun f => ⟨FieldSelector.parse_swap after ne reserved,
      FieldSelector.parse_swap after ne.symm reserved.symm⟩
  | @head v w tail head ih =>
    obtain ⟨hv, hw⟩ := head.toString?_eq_none
    simp only [Selector.parse_chain_eq_ok hv (List.cons_ne_nil _ _),
      Selector.parse_chain_eq_ok hw (List.cons_ne_nil _ _), ih]
  | @tail first v w noName tail ih =>
    simp only [Selector.parse_chain_eq_ok noName (List.cons_ne_nil _ _), Selector.parseRest, ih]
  | @nested as bs object ih =>
    have hfields : ∀ f, FieldSelector.parse as = .ok f ↔ FieldSelector.parse bs = .ok f := fun f =>
      Selector.parse_object_eq_ok.symm.trans ((ih (.fields f)).trans Selector.parse_object_eq_ok)
    simp only [Selector.parse, Pipeline.parse, Pipeline.parseAccessor, map_eq_ok, hfields]
  | @field before after key v w ne selector ih =>
    simp only [Selector.parse, map_eq_ok]
    refine exists_congr fun f => and_congr_left' (FieldSelector.parse_append_congr before ?_ f)
    have hpart : ∀ part,
        WrittenPart.parse key v = .ok part ↔ WrittenPart.parse key w = .ok part := by
      intro part
      rw [WrittenPart.parse_eq_ok, WrittenPart.parse_eq_ok]
      cases part with
      | filter p => exact iff_of_false (fun h => ne h.1.symm) fun h => ne h.1.symm
      | _ => simp only [ih]
    exact fun f => by simp only [FieldSelector.parse_cons_eq_ok, hpart]

theorem Value.SameQuery.parse_iff {v w : Value} (h : v.SameQuery w) (s : Selector) :
    Selector.parse v = .ok s ↔ Selector.parse w = .ok s := by
  induction h with
  | rel v w h => exact h.parse_iff s
  | refl v => rfl
  | symm v w _ ih => exact ih.symm
  | trans v w u _ _ ih ih' => exact ih.trans ih'

/-! ## Writing syntax -/

mutual

/-- The value that writes a predicate. -/
def Predicate.written : Predicate → Value
  | .equals v => v
  | .all entries => .object (writtenEntries entries)
  | .any alternatives => .array (writtenAlternatives alternatives)

def writtenEntries : List (String × Predicate) → List (String × Value)
  | [] => []
  | (key, p) :: entries => (key, p.written) :: writtenEntries entries

def writtenAlternatives : List Predicate → List Value
  | [] => []
  | p :: ps => p.written :: writtenAlternatives ps

end

mutual

/-- The value that writes a selector. -/
def Selector.written : Selector → Value
  | .exclude => .bool false
  | .copy => .bool true
  | .sort priority => .int priority
  | .named name => .string name
  | .pipeline p => .array p.written
  | .fields f => .object f.written

/-- The elements that write a pipeline. -/
def Pipeline.written : Pipeline → List Value
  | .identity => []
  | .access (.name name) => [.string name]
  | .access (.position n) => [.int n]
  | .constant v => [.array [v]]
  | .nested f => [.object f.written]
  | .call name args => .string name :: args
  | .chain head tail => [head.written, tail.written]

/-- The keys that write a field selector, the reserved ones first. -/
def FieldSelector.written : FieldSelector → List (String × Value)
  | .mk fields remaining filter =>
    writtenRemaining remaining ++
      ((filter.map fun p => (filterKey, p.written)).toList ++ writtenFields fields)

def writtenRemaining : Option Selector → List (String × Value)
  | none => []
  | some s => [(selectAllKey, s.written)]

def writtenFields : List (String × Selector) → List (String × Value)
  | [] => []
  | (key, s) :: fields => (key, s.written) :: writtenFields fields

end

theorem writtenEntries_eq_map (entries : List (String × Predicate)) :
    writtenEntries entries = entries.map fun p => (p.1, p.2.written) := by
  induction entries with
  | nil => rfl
  | cons p entries ih => rw [writtenEntries, ih, List.map_cons]

theorem writtenAlternatives_eq_map (alternatives : List Predicate) :
    writtenAlternatives alternatives = alternatives.map Predicate.written := by
  induction alternatives with
  | nil => rfl
  | cons p alternatives ih => rw [writtenAlternatives, ih, List.map_cons]

/-- A predicate is written in one way only. -/
theorem Predicate.written_of_parse {v : Value} {p : Predicate} (h : parse v = .ok p) :
    p.written = v := by
  refine parse_induction (P := fun v p => p.written = v) ?equals ?all ?any v h
  case equals => exact fun v _ => rfl
  case all =>
    intro fields entries h
    rw [Predicate.written, writtenEntries_eq_map]
    have hsame := map_eq_of_forall₂ (h.flip.imp fun q p hpq => (Prod.ext hpq.1.symm hpq.2 :
      (q.1, q.2.written) = id p))
    rw [hsame, List.map_id]
  case any =>
    intro items alternatives h
    rw [Predicate.written, writtenAlternatives_eq_map]
    have hsame := map_eq_of_forall₂ (h.flip.imp fun p v hvp => (hvp.2 : p.written = id v))
    rw [hsame, List.map_id]

/-- The value that writes a part under its key. -/
def WrittenPart.written : WrittenPart → Value
  | field _ s => s.written
  | remaining s => s.written
  | filter p => p.written

/-- A part in front, under a key that no other part has, can be moved to the place where it is
written. -/
theorem FieldSelector.sameQuery_addPart (before : List (String × Value)) {f : FieldSelector}
    {part : WrittenPart} (hfresh : ∀ other, f.HasPart other → part.key ≠ other.key) :
    (Value.object (before ++ (part.key, part.written) :: f.written)).SameQuery
      (.object (before ++ (f.addPart part).written)) := by
  obtain ⟨fields, remaining, filter⟩ := f
  have hremaining : ∀ q ∈ writtenRemaining remaining, part.key ≠ q.1 ∧ IsReserved q.1 := by
    cases remaining with
    | none => exact nofun
    | some s =>
      intro q hq
      rw [List.mem_singleton.1 hq]
      exact ⟨hfresh (.remaining s) rfl, .inl rfl⟩
  have hfilter : ∀ q ∈ (filter.map fun p => (filterKey, p.written)).toList,
      part.key ≠ q.1 ∧ IsReserved q.1 := by
    cases filter with
    | none => exact nofun
    | some p =>
      intro q hq
      rw [List.mem_singleton.1 hq]
      exact ⟨hfresh (.filter p) rfl, .inr rfl⟩
  cases part with
  | field key s =>
    have hpass := Value.SameQuery.pass before (key, s.written)
      (writtenRemaining remaining ++ (filter.map fun p => (filterKey, p.written)).toList)
      (writtenFields fields) fun q hq => ?_
    · rwa [List.append_assoc, List.append_assoc] at hpass
    · exact (List.mem_append.1 hq).elim (fun hq => (hremaining q hq).imp_right .inr)
        fun hq => (hfilter q hq).imp_right .inr
  | remaining s =>
    cases remaining with
    | none => exact .refl _
    | some s' => exact absurd rfl (hfresh (.remaining s') rfl)
  | filter p =>
    cases filter with
    | none =>
      exact .pass before (filterKey, p.written) (writtenRemaining remaining) (writtenFields fields)
        fun q hq => (hremaining q hq).imp_right .inr
    | some p' => exact absurd rfl (hfresh (.filter p') rfl)

/-- An object selector can be respelled as it is written if the selectors in it can, one key after
the other; `before` holds the keys that are already respelled. -/
theorem FieldSelector.sameQuery_written {written : List (String × Value)} {f : FieldSelector}
    (h : FieldSelector.parse written = .ok f) (hnames : (written.map (·.1)).Nodup)
    (ih : ∀ p ∈ written, ∀ s, Selector.parse p.2 = .ok s → p.2.SameQuery s.written)
    (before : List (String × Value)) :
    (Value.object (before ++ written)).SameQuery (.object (before ++ f.written)) := by
  induction written generalizing f before with
  | nil =>
    cases h
    exact .refl _
  | cons first written ihWritten =>
    obtain ⟨key, v⟩ := first
    obtain ⟨part, hpart, g, hg, rfl⟩ := parse_cons_eq_ok.1 h
    obtain ⟨hfresh, hrestNames⟩ := List.nodup_cons.1 hnames
    obtain ⟨hfirst, ihRest⟩ := List.forall_mem_cons.1 ih
    obtain ⟨rfl, hv⟩ := WrittenPart.parse_eq_ok.1 hpart
    have hvalue : (Value.object (before ++ (part.key, v) :: written)).SameQuery
        (.object (before ++ (part.key, part.written) :: written)) := by
      cases part with
      | field key s => exact .field before written hv.2.1 (hfirst s hv.2.2)
      | remaining s => exact .field before written filterKey_ne.symm (hfirst s hv)
      | filter p =>
        rw [← Predicate.written_of_parse hv]
        exact .refl _
    have hrest := ihWritten hg hrestNames ihRest (before ++ [(part.key, part.written)])
    rw [List.append_assoc, List.append_assoc] at hrest
    refine (hvalue.trans hrest).trans (sameQuery_addPart before fun other hother heq => ?_)
    obtain ⟨w, hw, -⟩ := written_of_hasPart hg other hother
    have hmem : other.key ∈ written.map (·.1) := List.mem_map.2 ⟨_, hw, rfl⟩
    exact hfresh (heq ▸ hmem)

/-- Every selector can be respelled as what it parses to is written. -/
theorem Selector.sameQuery_written {v : Value} {s : Selector} (h : Selector.parse v = .ok s)
    (hnames : v.DistinctNames) : v.SameQuery s.written := by
  refine Selector.parse_induction (P := fun v s => v.DistinctNames → v.SameQuery s.written)
    ?null ?bool ?int ?string ?object ?identity ?name ?position ?constant ?nested ?call ?pair ?chain
    v h hnames
  case null => exact fun _ => Value.Respells.null.sameQuery
  case bool =>
    intro b _
    cases b <;> exact .refl _
  case int => exact fun n _ _ => .refl _
  case string => exact fun name _ => .refl _
  case object =>
    intro written f hf ih hnames
    refine FieldSelector.sameQuery_written hf hnames.1 (fun p hp s hs => ?_) []
    exact ih p hp s hs (Value.over_of_mem hnames.2 hp)
  case identity => exact fun _ => .refl _
  case name => exact fun name _ => .refl _
  case position => exact fun n _ => .refl _
  case constant => exact fun v _ => .refl _
  case nested => exact fun written f _ ih hnames => .nested (ih hnames.1)
  case call => exact fun name args _ _ => .refl _
  case pair =>
    exact fun first second _ _ hname _ ihFirst ihSecond hnames =>
      (ihFirst hnames.1).chain (ihSecond hnames.2.1) hname
  case chain =>
    exact fun first rest _ _ hname _ htwo ihFirst ihRest hnames =>
      (Value.Respells.splice hname htwo).sameQuery.symm.trans
        ((ihFirst hnames.1).chain (ihRest hnames.2) hname)

/-! ## The kernel of parsing -/

/-- Parsing accepts the predicates and selectors of the grammar and nothing else, yields syntax that
can be written, and tells apart all selectors that are not the same query in another spelling. -/
theorem Selector.parse_exact (v : Value) :
    ((∃ p, Predicate.parse v = .ok p) ↔ v.IsPredicate) ∧
      ((∃ s, Selector.parse v = .ok s) ↔ v.IsSelector) ∧
      (∀ s, Selector.parse v = .ok s → s.WellFormed) ∧
      ∀ w : Value, v.DistinctNames → w.DistinctNames → v.IsSelector → w.IsSelector →
        (Selector.parse v = Selector.parse w ↔ v.SameQuery w) := by
  refine ⟨Predicate.exists_parse_iff, exists_parse_iff, fun s => wellFormed_of_parse,
    fun w hv hw hselector hselector' => ?_⟩
  obtain ⟨s, hs⟩ := exists_parse_iff.2 hselector
  obtain ⟨t, ht⟩ := exists_parse_iff.2 hselector'
  constructor
  · intro h
    rw [hs, ht, Except.ok.injEq] at h
    exact (sameQuery_written hs hv).trans (h ▸ sameQuery_written ht hw).symm
  · intro h
    rw [hs, (h.parse_iff s).1 hs]

/-- Reserved keys may stand anywhere, null may stand for false and a chain may be one array. Yet
null is not false in the arguments of a call. -/
theorem Selector.spellings_of_kennels :
    let ages (nothing : Value) (chain : List Value) (all filter : List (String × Value)) : Value :=
      .object (filter ++ [("name", nothing)] ++ all ++ [("ages", .array chain)])
    let old := ("?", Value.object [("age", .object [(">", .int 9)])])
    let v := ages .null [.array [.string "dogs"], .array [.array [.string "age"], .string "values"]]
      [] [("*", .bool true), old]
    let w := ages (.bool false) [.array [.string "dogs"], .array [.string "age"], .string "values"]
      [old, ("*", .bool true)] []
    let call (arg : Value) := Value.array [.string "concat", .array [.string "name"], arg]
    v ≠ w ∧ v.SameQuery w ∧ (∀ s, Selector.parse v = .ok s → s.WellFormed) ∧
      ¬(call .null).SameQuery (call (.bool false)) := by
  intro ages old v w call
  have hv : v.DistinctNames := by
    simp [v, ages, old, Value.DistinctNames, Value.Over, Value.OverItems, Value.OverFields]
  have hw : w.DistinctNames := by
    simp [w, ages, old, Value.DistinctNames, Value.Over, Value.OverItems, Value.OverFields]
  have hcall : ∀ b, (call (.bool b)).DistinctNames ∧ (call .null).DistinctNames := by
    simp [call, Value.DistinctNames, Value.Over, Value.OverItems]
  have hselector := (parse_exact v).2.1.1 ⟨_, rfl⟩
  have hselector' := (parse_exact w).2.1.1 ⟨_, rfl⟩
  refine ⟨by decide, ((parse_exact v).2.2.2 w hv hw hselector hselector').1 rfl,
    (parse_exact v).2.2.1, fun h => ?_⟩
  have hequal := ((parse_exact (call .null)).2.2.2 _ (hcall false).2 (hcall false).1
    ((parse_exact _).2.1.1 ⟨_, rfl⟩) ((parse_exact _).2.1.1 ⟨_, rfl⟩)).2 h
  cases hequal

end Reshape
