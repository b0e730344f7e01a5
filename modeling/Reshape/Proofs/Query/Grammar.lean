import Reshape.Proofs.Query.Parser
import Reshape.Proofs.Related

/-!
# The grammar of queries

Which values are predicates and which are selectors is stated here form by form and without the
parser (`Value.IsPredicate`, `Value.IsSelector`). Parsing succeeds for these values and for no
others (`Predicate.exists_parse_iff`, `Selector.exists_parse_iff`).

What parsing yields is not all of syntax: some trees have no written form, a call without arguments
for one, which would read a field. `Selector.WellFormed` says what never occurs.

Both are proved along the parser. `Predicate.parse_induction` and `Selector.parse_induction` are its
recursion as induction principles, with one case for each written form.
-/

namespace Reshape

/-! ## Predicates -/

/-- Whether a value is a predicate: no array in it stands directly in another one. -/
inductive Value.IsPredicate : Value → Prop where
  | terminal {v : Value} (terminal : v.isTerminal = true) : IsPredicate v
  | all {fields : List (String × Value)} (entries : ∀ p ∈ fields, IsPredicate p.2) :
      IsPredicate (.object fields)
  | any {items : List Value} (flat : ∀ v ∈ items, v.isArray = false)
      (alternatives : ∀ v ∈ items, IsPredicate v) : IsPredicate (.array items)

/-- Whether a predicate is one that a value can write: terminal values are compared with, and no
disjunction stands directly in another one. -/
inductive Predicate.WellFormed : Predicate → Prop where
  | equals {v : Value} (terminal : v.isTerminal = true) : WellFormed (.equals v)
  | all {entries : List (String × Predicate)} (tests : ∀ p ∈ entries, WellFormed p.2) :
      WellFormed (.all entries)
  | any {alternatives : List Predicate} (flat : ∀ ps, .any ps ∉ alternatives)
      (tests : ∀ p ∈ alternatives, WellFormed p) : WellFormed (.any alternatives)

namespace Predicate

theorem parseEntries_eq_ok {fields : List (String × Value)} {entries : List (String × Predicate)} :
    parseEntries fields = .ok entries ↔
      List.Forall₂ (fun p q => p.1 = q.1 ∧ parse p.2 = .ok q.2) fields entries := by
  induction fields generalizing entries with
  | nil =>
    rw [parseEntries, List.forall₂_nil_left_iff, Except.ok.injEq, eq_comm]
  | cons field fields ih =>
    obtain ⟨key, v⟩ := field
    simp only [parseEntries, bind_eq_ok, located_eq_ok, ih, List.forall₂_cons_left_iff, pure,
      Except.pure, Except.ok.injEq]
    constructor
    · rintro ⟨p, hp, entries, hentries, rfl⟩
      exact ⟨_, _, ⟨rfl, hp⟩, hentries, rfl⟩
    · rintro ⟨⟨_, p⟩, entries, ⟨rfl, hp⟩, hentries, rfl⟩
      exact ⟨p, hp, entries, hentries, rfl⟩

theorem parseAlternatives_eq_ok {whole : Value} {items : List Value}
    {alternatives : List Predicate} : parseAlternatives whole items = .ok alternatives ↔
      List.Forall₂ (fun v p => v.isArray = false ∧ parse v = .ok p) items alternatives := by
  induction items generalizing alternatives with
  | nil =>
    rw [parseAlternatives, List.forall₂_nil_left_iff, Except.ok.injEq, eq_comm]
  | cons v items ih =>
    rw [parseAlternatives, List.forall₂_cons_left_iff]
    cases harray : v.isArray with
    | true => exact iff_of_false refuse_ne_ok (by simp)
    | false =>
      simp only [Bool.false_eq_true, if_false, bind_eq_ok, ih, pure, Except.pure, Except.ok.injEq,
        true_and]
      constructor
      · rintro ⟨p, hp, alternatives, halternatives, rfl⟩
        exact ⟨p, alternatives, hp, halternatives, rfl⟩
      · rintro ⟨p, alternatives, hp, halternatives, rfl⟩
        exact ⟨p, hp, alternatives, halternatives, rfl⟩

/-- What holds of terminal values, of an object as soon as it holds of its fields and of an array as
soon as it holds of its items, none of them an array, holds of every value that parses to a
predicate and the predicate. -/
theorem parse_induction {P : Value → Predicate → Prop}
    (equals : ∀ v, v.isTerminal = true → P v (.equals v))
    (all : ∀ fields entries, List.Forall₂ (fun p q => p.1 = q.1 ∧ P p.2 q.2) fields entries →
      P (.object fields) (.all entries))
    (any : ∀ items alternatives,
      List.Forall₂ (fun v p => v.isArray = false ∧ P v p) items alternatives →
      P (.array items) (.any alternatives))
    (v : Value) {p : Predicate} (h : parse v = .ok p) : P v p := by
  match v with
  | .object fields =>
    obtain ⟨entries, hentries, rfl⟩ := map_eq_ok.1 h
    refine all fields entries ((forall₂_and_of_mem (parseEntries_eq_ok.1 hentries) ?_).imp
      fun _ _ hpq => ⟨hpq.1.1, hpq.2⟩)
    exact fun p hp q hpq => parse_induction equals all any p.2 hpq.2
  | .array items =>
    obtain ⟨alternatives, halternatives, rfl⟩ := map_eq_ok.1 h
    refine any items alternatives ((forall₂_and_of_mem (parseAlternatives_eq_ok.1 halternatives)
      ?_).imp fun _ _ hvp => ⟨hvp.1.1, hvp.2⟩)
    exact fun v hv p hvp => parse_induction equals all any v hvp.2
  | .null | .bool _ | .int _ | .float _ | .string _ =>
    cases h
    exact equals _ rfl
termination_by v.weight
decreasing_by
  · have := weight_lt_fieldsWeight hp
    simp only [Value.weight]
    omega
  · have := weight_le_itemsWeight hv
    simp only [Value.weight]
    omega

/-- What parses to a predicate is one. -/
theorem isPredicate_of_parse {v : Value} {p : Predicate} (h : parse v = .ok p) :
    v.IsPredicate := by
  refine parse_induction (P := fun v _ => v.IsPredicate) ?equals ?all ?any v h
  case equals => exact fun v hv => .terminal hv
  case all => exact fun fields entries h => .all (forall_mem_left h fun _ _ hpq => hpq.2)
  case any =>
    exact fun items ps h => .any (forall_mem_left h fun _ _ hvp => hvp.1)
      (forall_mem_left h fun _ _ hvp => hvp.2)

/-- What a value is parsed to has the shape of one that a value can write. -/
theorem wellFormed_of_parse {v : Value} {p : Predicate} (h : parse v = .ok p) : p.WellFormed := by
  refine (parse_induction (P := fun v p => (∀ qs, p = .any qs → v.isArray = true) ∧ p.WellFormed)
    ?equals ?all ?any v h).2
  case equals => exact fun v hv => ⟨nofun, .equals hv⟩
  case all =>
    exact fun fields entries h => ⟨nofun, .all (forall_mem_right h fun _ _ hpq => hpq.2.2)⟩
  case any =>
    refine fun items ps h => ⟨fun _ _ => rfl, .any (fun qs hqs => ?_) ?_⟩
    · have hflat := forall_mem_right h (P := fun p => ∀ qs, p ≠ .any qs) fun v p hvp qs hp =>
        Bool.false_ne_true (hvp.1.symm.trans (hvp.2.1 qs hp))
      exact hflat _ hqs qs rfl
    · exact forall_mem_right h fun _ _ hvp => hvp.2.2

/-- Parsing succeeds for predicates and for no other value. -/
theorem exists_parse_iff {v : Value} : (∃ p, parse v = .ok p) ↔ v.IsPredicate := by
  constructor
  · rintro ⟨p, hp⟩
    exact isPredicate_of_parse hp
  · intro h
    induction h with
    | @terminal v terminal =>
      cases v with
      | array items => cases terminal
      | object fields => cases terminal
      | _ => exact ⟨_, rfl⟩
    | @all fields entries ih =>
      have hentries : ∃ qs : List (String × Predicate),
          List.Forall₂ (fun p q => p.1 = q.1 ∧ parse p.2 = .ok q.2) fields qs := by
        refine exists_forall₂_iff.2 fun p hp => ?_
        obtain ⟨q, hq⟩ := ih p hp
        exact ⟨(p.1, q), rfl, hq⟩
      obtain ⟨qs, hqs⟩ := hentries
      exact ⟨_, map_eq_ok.2 ⟨qs, parseEntries_eq_ok.2 hqs, rfl⟩⟩
    | @any items flat alternatives ih =>
      obtain ⟨alternatives, halternatives⟩ := exists_forall₂_iff.2 fun v hv =>
        (ih v hv).imp fun p hp => And.intro (flat v hv) hp
      exact ⟨_, map_eq_ok.2 ⟨alternatives, parseAlternatives_eq_ok.2 halternatives, rfl⟩⟩

end Predicate

/-! ## Selectors -/

/-- Whether a value is a selector. -/
inductive Value.IsSelector : Value → Prop where
  | null : IsSelector .null
  | bool (b : Bool) : IsSelector (.bool b)
  | int {n : Int64} (nonzero : n ≠ 0) : IsSelector (.int n)
  | string (s : String) : IsSelector (.string s)
  | object {fields : List (String × Value)}
      (filter : ∀ p ∈ fields, p.1 = filterKey → p.2.IsPredicate)
      (selectors : ∀ p ∈ fields, p.1 ≠ filterKey → IsSelector p.2) : IsSelector (.object fields)
  | identity : IsSelector (.array [])
  | name (s : String) : IsSelector (.array [.string s])
  | position (n : Int64) : IsSelector (.array [.int n])
  | constant (v : Value) : IsSelector (.array [.array [v]])
  | nested {fields : List (String × Value)} (object : IsSelector (.object fields)) :
      IsSelector (.array [.object fields])
  | call (name : String) {args : List Value} (args_ne : args ≠ []) :
      IsSelector (.array (.string name :: args))
  | pair {head tail : Value} (noName : head.toString? = none) (ofHead : IsSelector head)
      (ofTail : IsSelector tail) : IsSelector (.array [head, tail])
  | chain {head : Value} {rest : List Value} (noName : head.toString? = none)
      (ofHead : IsSelector head) (two : 2 ≤ rest.length) (ofRest : IsSelector (.array rest)) :
      IsSelector (.array (head :: rest))

mutual

/-- Whether a selector is one that a value can write. -/
inductive Selector.WellFormed : Selector → Prop where
  | exclude : Selector.WellFormed .exclude
  | copy : Selector.WellFormed .copy
  | sort {n : Int64} (nonzero : n ≠ 0) : Selector.WellFormed (.sort n)
  | named (name : String) : Selector.WellFormed (.named name)
  | pipeline {p : Pipeline} (part : Pipeline.WellFormed p) : Selector.WellFormed (.pipeline p)
  | fields {f : FieldSelector} (part : FieldSelector.WellFormed f) :
      Selector.WellFormed (.fields f)

/-- Whether a pipeline is one that a value can write: a call has arguments, and a chain does not
start with a name, which would make it a call. -/
inductive Pipeline.WellFormed : Pipeline → Prop where
  | identity : Pipeline.WellFormed .identity
  | access (key : Key) : Pipeline.WellFormed (.access key)
  | constant (v : Value) : Pipeline.WellFormed (.constant v)
  | nested {f : FieldSelector} (part : FieldSelector.WellFormed f) :
      Pipeline.WellFormed (.nested f)
  | call (name : String) {args : List Value} (args_ne : args ≠ []) :
      Pipeline.WellFormed (.call name args)
  | chain {head tail : Selector} (noName : ∀ name, head ≠ .named name)
      (ofHead : Selector.WellFormed head) (ofTail : Selector.WellFormed tail) :
      Pipeline.WellFormed (.chain head tail)

/-- Whether a field selector is one that a value can write: no field has a reserved key. -/
inductive FieldSelector.WellFormed : FieldSelector → Prop where
  | mk {fields : List (String × Selector)} {remaining : Option Selector}
      {filter : Option Predicate}
      (notReserved : ∀ p ∈ fields, p.1 ≠ selectAllKey ∧ p.1 ≠ filterKey)
      (ofFields : ∀ p ∈ fields, Selector.WellFormed p.2)
      (ofRemaining : ∀ s, remaining = some s → Selector.WellFormed s)
      (ofFilter : ∀ p, filter = some p → Predicate.WellFormed p) :
      FieldSelector.WellFormed (.mk fields remaining filter)

end

theorem Selector.parseRest_of_two_le {rest : List Value} (h : 2 ≤ rest.length) :
    Selector.parseRest rest = Selector.parse (.array rest) := by
  rw [parseRest_of_length_ne_one (by omega), Selector.parse]

theorem Selector.parse_call (name : String) {args : List Value} (h : args ≠ []) :
    Selector.parse (.array (.string name :: args)) = .ok (.pipeline (.call name args)) := by
  rw [Selector.parse, Pipeline.parse_cons _ h]
  rfl

theorem Selector.parse_chain_eq_ok {first : Value} {rest : List Value} {s : Selector}
    (hfirst : first.toString? = none) (hrest : rest ≠ []) :
    Selector.parse (.array (first :: rest)) = .ok s ↔ ∃ head tail, Selector.parse first = .ok head ∧
      Selector.parseRest rest = .ok tail ∧ .pipeline (.chain head tail) = s := by
  simp only [Selector.parse, Pipeline.parse_cons first hrest, hfirst, map_eq_ok, bind_eq_ok, pure,
    Except.pure, Except.ok.injEq]
  constructor
  · rintro ⟨p, ⟨head, hhead, tail, htail, rfl⟩, rfl⟩
    exact ⟨head, tail, hhead, htail, rfl⟩
  · rintro ⟨head, tail, hhead, htail, rfl⟩
    exact ⟨_, ⟨head, hhead, tail, htail, rfl⟩, rfl⟩

/-- What holds of every written form as soon as it holds of the selectors in it holds of every value
that parses to a selector and the selector. -/
theorem Selector.parse_induction {P : Value → Selector → Prop}
    (null : P .null .exclude) (bool : ∀ b, P (.bool b) (if b then .copy else .exclude))
    (int : ∀ n, n ≠ 0 → P (.int n) (.sort n)) (string : ∀ name, P (.string name) (.named name))
    (object : ∀ fields f, FieldSelector.parse fields = .ok f →
      (∀ p ∈ fields, ∀ s, Selector.parse p.2 = .ok s → P p.2 s) → P (.object fields) (.fields f))
    (identity : P (.array []) (.pipeline .identity))
    (name : ∀ name, P (.array [.string name]) (.pipeline (.access (.name name))))
    (position : ∀ n, P (.array [.int n]) (.pipeline (.access (.position n))))
    (constant : ∀ v, P (.array [.array [v]]) (.pipeline (.constant v)))
    (nested : ∀ fields f, FieldSelector.parse fields = .ok f → P (.object fields) (.fields f) →
      P (.array [.object fields]) (.pipeline (.nested f)))
    (call : ∀ name args, args ≠ [] →
      P (.array (.string name :: args)) (.pipeline (.call name args)))
    (pair : ∀ first second head tail, first.toString? = none → Selector.parse first = .ok head →
      P first head → P second tail → P (.array [first, second]) (.pipeline (.chain head tail)))
    (chain : ∀ first rest head tail, first.toString? = none → Selector.parse first = .ok head →
      2 ≤ rest.length → P first head → P (.array rest) tail →
      P (.array (first :: rest)) (.pipeline (.chain head tail)))
    (v : Value) {s : Selector} (h : Selector.parse v = .ok s) : P v s := by
  have ih : ∀ w, w.weight < v.weight → ∀ {s}, Selector.parse w = .ok s → P w s := fun w _ _ hw =>
    Selector.parse_induction null bool int string object identity name position constant nested call
      pair chain w hw
  match v, h, ih with
  | .null, h, ih =>
    cases h
    exact null
  | .bool false, h, ih =>
    cases h
    exact bool false
  | .bool true, h, ih =>
    cases h
    exact bool true
  | .int n, h, ih =>
    rw [Selector.parse] at h
    split at h
    · exact absurd h refuse_ne_ok
    · cases h
      exact int n ‹_›
  | .float x, h, ih => exact absurd h refuse_ne_ok
  | .string s, h, ih =>
    cases h
    exact string s
  | .object written, h, ih =>
    obtain ⟨f, hf, rfl⟩ := map_eq_ok.1 h
    refine object written f hf fun p hp s hs => ih p.2 ?_ hs
    have := weight_lt_fieldsWeight hp
    simp only [Value.weight]
    omega
  | .array [], h, ih =>
    cases h
    exact identity
  | .array [.string s], h, ih =>
    cases h
    exact name s
  | .array [.int n], h, ih =>
    cases h
    exact position n
  | .array [.array [v]], h, ih =>
    cases h
    exact constant v
  | .array [.object written], h, ih =>
    obtain ⟨p, hp, rfl⟩ := map_eq_ok.1 h
    obtain ⟨f, hf, rfl⟩ := map_eq_ok.1 hp
    refine nested written f hf (ih (.object written) ?_ (map_eq_ok.2 ⟨f, hf, rfl⟩))
    simp only [Value.weight, itemsWeight]
    omega
  | .array [.array []], h, _ | .array [.array (_ :: _ :: _)], h, _ | .array [.null], h, _ |
    .array [.bool _], h, _ | .array [.float _], h, _ => cases h
  | .array (first :: second :: rest), h, ih =>
    cases hname : first.toString? with
    | some name =>
      obtain rfl := Value.eq_string_of_toString? hname
      cases (Selector.parse_call name (List.cons_ne_nil second rest)).symm.trans h
      exact call name _ (List.cons_ne_nil second rest)
    | none =>
      obtain ⟨head, tail, hhead, htail, rfl⟩ :=
        (Selector.parse_chain_eq_ok hname (List.cons_ne_nil second rest)).1 h
      have hfirst : first.weight < (Value.array (first :: second :: rest)).weight := by
        simp only [Value.weight, itemsWeight]
        omega
      cases rest with
      | nil =>
        refine pair first second head tail hname hhead (ih first hfirst hhead) (ih second ?_ htail)
        simp only [Value.weight, itemsWeight]
        omega
      | cons third rest =>
        have htwo : 2 ≤ (second :: third :: rest).length := by simp
        rw [Selector.parseRest_of_two_le htwo] at htail
        refine chain first _ head tail hname hhead htwo (ih first hfirst hhead) (ih _ ?_ htail)
        simp only [Value.weight, itemsWeight]
        omega
termination_by v.weight
decreasing_by assumption

/-- A part is parsed from a predicate under the key `?` and from a selector under any other. -/
theorem WrittenPart.exists_parse_iff {key : String} {v : Value} :
    (∃ part, WrittenPart.parse key v = .ok part) ↔
      (key = filterKey → ∃ p, Predicate.parse v = .ok p) ∧
      (key ≠ filterKey → ∃ s, Selector.parse v = .ok s) := by
  constructor
  · rintro ⟨part, hpart⟩
    obtain ⟨rfl, hv⟩ := WrittenPart.parse_eq_ok.1 hpart
    cases part with
    | field key s => exact ⟨fun hkey => absurd hkey hv.2.1, fun _ => ⟨s, hv.2.2⟩⟩
    | remaining s => exact ⟨fun hkey => absurd hkey.symm filterKey_ne, fun _ => ⟨s, hv⟩⟩
    | filter p => exact ⟨fun _ => ⟨p, hv⟩, fun hkey => absurd rfl hkey⟩
  · rintro ⟨hfilter, hselector⟩
    by_cases hkey : key = filterKey
    · obtain ⟨p, hp⟩ := hfilter hkey
      exact ⟨.filter p, WrittenPart.parse_eq_ok.2 ⟨hkey.symm, hp⟩⟩
    · obtain ⟨s, hs⟩ := hselector hkey
      by_cases hall : key = selectAllKey
      · exact ⟨.remaining s, WrittenPart.parse_eq_ok.2 ⟨hall.symm, hs⟩⟩
      · exact ⟨.field key s, WrittenPart.parse_eq_ok.2 ⟨rfl, hall, hkey, hs⟩⟩

theorem FieldSelector.exists_parse_iff {written : List (String × Value)} :
    (∃ f, FieldSelector.parse written = .ok f) ↔
      ∀ p ∈ written, ∃ part, WrittenPart.parse p.1 p.2 = .ok part := by
  induction written with
  | nil => exact iff_of_true ⟨_, rfl⟩ nofun
  | cons first written ih =>
    rw [List.forall_mem_cons, ← ih]
    constructor
    · rintro ⟨f, hf⟩
      obtain ⟨part, hpart, g, hg, -⟩ := parse_cons_eq_ok.1 hf
      exact ⟨⟨part, hpart⟩, ⟨g, hg⟩⟩
    · rintro ⟨⟨part, hpart⟩, ⟨g, hg⟩⟩
      exact ⟨_, parse_cons_eq_ok.2 ⟨part, hpart, g, hg, rfl⟩⟩

/-- What parses to a selector is one. -/
theorem Selector.isSelector_of_parse {v : Value} {s : Selector} (h : Selector.parse v = .ok s) :
    v.IsSelector := by
  refine Selector.parse_induction (P := fun v _ => v.IsSelector) ?null ?bool ?int ?string ?object
    ?identity ?name ?position ?constant ?nested ?call ?pair ?chain v h
  case null => exact .null
  case bool => exact .bool
  case int => exact fun n hn => .int hn
  case string => exact .string
  case object =>
    intro written f hf ih
    have hparts := FieldSelector.exists_parse_iff.1 ⟨f, hf⟩
    refine .object (fun p hp hkey => ?_) fun p hp hkey => ?_
    · exact Predicate.exists_parse_iff.1 ((WrittenPart.exists_parse_iff.1 (hparts p hp)).1 hkey)
    · obtain ⟨s, hs⟩ := (WrittenPart.exists_parse_iff.1 (hparts p hp)).2 hkey
      exact ih p hp s hs
  case identity => exact .identity
  case name => exact .name
  case position => exact .position
  case constant => exact .constant
  case nested => exact fun fields f _ hobject => .nested hobject
  case call => exact fun name args hargs => .call name hargs
  case pair => exact fun _ _ _ _ hname _ hfirst hsecond => .pair hname hfirst hsecond
  case chain => exact fun _ _ _ _ hname _ htwo hfirst hrest => .chain hname hfirst htwo hrest

/-- Parsing succeeds for selectors and for no other value. -/
theorem Selector.exists_parse_iff {v : Value} : (∃ s, Selector.parse v = .ok s) ↔ v.IsSelector := by
  constructor
  · rintro ⟨s, hs⟩
    exact isSelector_of_parse hs
  · intro h
    induction h with
    | null => exact ⟨_, rfl⟩
    | bool b => cases b <;> exact ⟨_, rfl⟩
    | @int n nonzero => exact ⟨.sort n, by rw [Selector.parse, if_neg nonzero]⟩
    | string s => exact ⟨_, rfl⟩
    | object filter _ ih =>
      obtain ⟨f, hf⟩ := FieldSelector.exists_parse_iff.2 fun p hp =>
        WrittenPart.exists_parse_iff.2
          ⟨fun hkey => Predicate.exists_parse_iff.2 (filter p hp hkey), ih p hp⟩
      exact ⟨_, map_eq_ok.2 ⟨f, hf, rfl⟩⟩
    | identity => exact ⟨_, rfl⟩
    | name s => exact ⟨_, rfl⟩
    | position n => exact ⟨_, rfl⟩
    | constant v => exact ⟨_, rfl⟩
    | nested _ ih =>
      obtain ⟨s, hs⟩ := ih
      obtain ⟨f, hf, -⟩ := map_eq_ok.1 hs
      exact ⟨_, map_eq_ok.2 ⟨.nested f, map_eq_ok.2 ⟨f, hf, rfl⟩, rfl⟩⟩
    | call name args_ne => exact ⟨_, parse_call name args_ne⟩
    | pair noName _ _ ihHead ihTail =>
      obtain ⟨head, hhead⟩ := ihHead
      obtain ⟨tail, htail⟩ := ihTail
      exact ⟨_, (parse_chain_eq_ok noName (List.cons_ne_nil _ _)).2 ⟨head, tail, hhead, htail, rfl⟩⟩
    | @chain first rest noName _ two _ ihHead ihRest =>
      obtain ⟨head, hhead⟩ := ihHead
      obtain ⟨tail, htail⟩ := ihRest
      have hrest : rest ≠ [] := List.ne_nil_of_length_pos (by omega)
      rw [← parseRest_of_two_le two] at htail
      exact ⟨_, (parse_chain_eq_ok noName hrest).2 ⟨head, tail, hhead, htail, rfl⟩⟩

/-- Only a string parses to a bare name. -/
theorem Selector.ne_named_of_parse {v : Value} {s : Selector} (h : Selector.parse v = .ok s)
    (hname : v.toString? = none) (name : String) : s ≠ .named name := by
  rintro rfl
  cases v with
  | string s => cases hname
  | bool b => cases b <;> cases h
  | int n =>
    rw [Selector.parse] at h
    split at h <;> cases h
  | array elements =>
    obtain ⟨_, -, h⟩ := map_eq_ok.1 h
    cases h
  | object written =>
    obtain ⟨_, -, h⟩ := map_eq_ok.1 h
    cases h
  | _ => cases h

/-- What a value is parsed to has the shape of one that a value can write. -/
theorem Selector.wellFormed_of_parse {v : Value} {s : Selector} (h : Selector.parse v = .ok s) :
    s.WellFormed := by
  refine Selector.parse_induction (P := fun _ s => s.WellFormed) ?null ?bool ?int ?string ?object
    ?identity ?name ?position ?constant ?nested ?call ?pair ?chain v h
  case null => exact .exclude
  case bool => exact fun b => by cases b; exacts [.exclude, .copy]
  case int => exact fun n hn => .sort hn
  case string => exact .named
  case object =>
    intro written f hf ih
    obtain ⟨fields, remaining, filter⟩ := f
    have hwritten : ∀ part, (FieldSelector.mk fields remaining filter).HasPart part → ∃ v,
        (part.key, v) ∈ written ∧ WrittenPart.parse part.key v = .ok part :=
      FieldSelector.written_of_hasPart hf
    refine .fields (.mk (fun p hp => ?_) (fun p hp => ?_) (fun s hs => ?_) fun p hp => ?_)
    · obtain ⟨v, -, hv⟩ := hwritten (.field p.1 p.2) hp
      exact ⟨(WrittenPart.parse_eq_ok.1 hv).2.1, (WrittenPart.parse_eq_ok.1 hv).2.2.1⟩
    · obtain ⟨v, hmem, hv⟩ := hwritten (.field p.1 p.2) hp
      exact ih _ hmem _ (WrittenPart.parse_eq_ok.1 hv).2.2.2
    · obtain ⟨v, hmem, hv⟩ := hwritten (.remaining s) hs
      exact ih _ hmem _ (WrittenPart.parse_eq_ok.1 hv).2
    · obtain ⟨v, -, hv⟩ := hwritten (.filter p) hp
      exact Predicate.wellFormed_of_parse (WrittenPart.parse_eq_ok.1 hv).2
  case identity => exact .pipeline .identity
  case name => exact fun name => .pipeline (.access _)
  case position => exact fun n => .pipeline (.access _)
  case constant => exact fun v => .pipeline (.constant v)
  case nested =>
    rintro fields f - ⟨⟩
    exact .pipeline (.nested ‹_›)
  case call => exact fun name args hargs => .pipeline (.call name hargs)
  case pair =>
    exact fun _ _ _ _ hname hhead hfirst hsecond =>
      .pipeline (.chain (ne_named_of_parse hhead hname) hfirst hsecond)
  case chain =>
    exact fun _ _ _ _ hname hhead _ hfirst hrest =>
      .pipeline (.chain (ne_named_of_parse hhead hname) hfirst hrest)

end Reshape
