import Reshape.Proofs.Query.Parser

/-!
# Names in queries

The names that compiling a query can ask about are the names on their own, the heads of calls, the
keys of object selectors and of conjunctions, and whatever is written in the arguments of calls,
which are still values (`Selector.names`). All of them are strings of the value that the query was
parsed from: parsing makes up no names.
-/

namespace Reshape

mutual

/-- The strings in a value and the keys of its objects, at any depth. -/
def Value.strings : Value → List String
  | .string s => [s]
  | .array items => itemsStrings items
  | .object fields => fieldsStrings fields
  | .null | .bool _ | .int _ | .float _ => []

def itemsStrings : List Value → List String
  | [] => []
  | v :: items => v.strings ++ itemsStrings items

def fieldsStrings : List (String × Value) → List String
  | [] => []
  | (key, v) :: fields => key :: (v.strings ++ fieldsStrings fields)

end

namespace Predicate

mutual

/-- The keys of a predicate's conjunctions, at any depth. -/
def names : Predicate → List String
  | .equals _ => []
  | .all entries => entriesNames entries
  | .any alternatives => alternativesNames alternatives

def entriesNames : List (String × Predicate) → List String
  | [] => []
  | (key, p) :: entries => key :: (p.names ++ entriesNames entries)

def alternativesNames : List Predicate → List String
  | [] => []
  | p :: alternatives => p.names ++ alternativesNames alternatives

end

end Predicate

def filterNames : Option Predicate → List String
  | none => []
  | some p => p.names

mutual

/-- The names in a selector, at any depth. -/
def Selector.names : Selector → List String
  | .named name => [name]
  | .pipeline p => p.names
  | .fields f => f.names
  | .exclude | .copy | .sort _ => []

def Pipeline.names : Pipeline → List String
  | .nested f => f.names
  | .call name args => name :: itemsStrings args
  | .chain head tail => head.names ++ tail.names
  | .identity | .access _ | .constant _ => []

def FieldSelector.names : FieldSelector → List String
  | .mk fields remaining filter =>
    selectorsNames fields ++ remainingNames remaining ++ filterNames filter

def selectorsNames : List (String × Selector) → List String
  | [] => []
  | (key, s) :: fields => key :: (s.names ++ selectorsNames fields)

def remainingNames : Option Selector → List String
  | none => []
  | some s => s.names

end

/-! ## Parsing makes up no names -/

theorem append_subset_append {α : Type} {as bs cs ds : List α} (h : as ⊆ cs) (h' : bs ⊆ ds) :
    as ++ bs ⊆ cs ++ ds :=
  List.append_subset.2
    ⟨List.subset_append_of_subset_left ds h, List.subset_append_of_subset_right cs h'⟩

namespace Predicate

mutual

theorem names_subset_of_parse (v : Value) {p : Predicate} (h : parse v = .ok p) :
    p.names ⊆ v.strings := by
  match v with
  | .object fields =>
    obtain ⟨entries, hentries, rfl⟩ := map_eq_ok.1 h
    rw [names, Value.strings]
    exact entriesNames_subset_of_parse fields hentries
  | .array items =>
    obtain ⟨alternatives, halternatives, rfl⟩ := map_eq_ok.1 h
    rw [names, Value.strings]
    exact alternativesNames_subset_of_parse items halternatives
  | .null | .bool _ | .int _ | .float _ | .string _ =>
    cases h
    exact List.nil_subset _

theorem entriesNames_subset_of_parse (fields : List (String × Value))
    {entries : List (String × Predicate)} (h : parseEntries fields = .ok entries) :
    entriesNames entries ⊆ fieldsStrings fields := by
  match fields with
  | [] =>
    cases h
    exact List.nil_subset _
  | (key, v) :: fields =>
    rw [parseEntries] at h
    obtain ⟨p, hp, h⟩ := bind_eq_ok.1 h
    obtain ⟨entries, hentries, h⟩ := bind_eq_ok.1 h
    cases h
    rw [entriesNames, fieldsStrings]
    exact List.cons_subset_cons key (append_subset_append
      (names_subset_of_parse v (located_eq_ok.1 hp)) (entriesNames_subset_of_parse fields hentries))

theorem alternativesNames_subset_of_parse {whole : Value} (items : List Value)
    {alternatives : List Predicate} (h : parseAlternatives whole items = .ok alternatives) :
    alternativesNames alternatives ⊆ itemsStrings items := by
  match items with
  | [] =>
    cases h
    exact List.nil_subset _
  | v :: items =>
    rw [parseAlternatives] at h
    split at h
    · exact absurd h refuse_ne_ok
    · obtain ⟨p, hp, h⟩ := bind_eq_ok.1 h
      obtain ⟨alternatives, halternatives, h⟩ := bind_eq_ok.1 h
      cases h
      rw [alternativesNames, itemsStrings]
      exact append_subset_append (names_subset_of_parse v hp)
        (alternativesNames_subset_of_parse items halternatives)

end

end Predicate

theorem FieldSelector.names_subset_iff {f : FieldSelector} {strings : List String} :
    f.names ⊆ strings ↔ selectorsNames f.fields ⊆ strings ∧
      remainingNames f.remaining ⊆ strings ∧ filterNames f.filter ⊆ strings := by
  obtain ⟨fields, remaining, filter⟩ := f
  rw [FieldSelector.names, List.append_subset, List.append_subset, and_assoc]
  rfl

mutual

/-- The names in a parsed selector are strings of the value. -/
theorem Selector.names_subset_of_parse (v : Value) {s : Selector}
    (h : Selector.parse v = .ok s) : s.names ⊆ v.strings := by
  match v with
  | .null | .bool false | .bool true =>
    cases h
    exact List.nil_subset _
  | .int n =>
    rw [Selector.parse] at h
    split at h
    · exact absurd h refuse_ne_ok
    · cases h
      exact List.nil_subset _
  | .float x => exact absurd h refuse_ne_ok
  | .string name =>
    cases h
    exact List.Subset.refl _
  | .array elements =>
    obtain ⟨p, hp, rfl⟩ := map_eq_ok.1 h
    rw [Selector.names, Value.strings]
    exact Pipeline.names_subset_of_parse elements hp
  | .object fields =>
    obtain ⟨f, hf, rfl⟩ := map_eq_ok.1 h
    rw [Selector.names, Value.strings]
    exact FieldSelector.names_subset_of_parse fields hf

theorem Selector.names_subset_of_parseRest (args : List Value) {s : Selector}
    (h : Selector.parseRest args = .ok s) : s.names ⊆ itemsStrings args := by
  match args with
  | [single] =>
    rw [itemsStrings]
    exact List.subset_append_of_subset_left _ (Selector.names_subset_of_parse single h)
  | [] | _ :: _ :: _ =>
    obtain ⟨p, hp, rfl⟩ := map_eq_ok.1 h
    rw [Selector.names]
    exact Pipeline.names_subset_of_parse _ hp

theorem Pipeline.names_subset_of_parse (elements : List Value) {p : Pipeline}
    (h : Pipeline.parse elements = .ok p) : p.names ⊆ itemsStrings elements := by
  match elements with
  | [] =>
    cases h
    exact List.nil_subset _
  | [element] =>
    rw [itemsStrings]
    exact List.subset_append_of_subset_left _ (Pipeline.names_subset_of_parseAccessor element h)
  | first :: second :: rest =>
    rw [Pipeline.parse_cons first (List.cons_ne_nil second rest)] at h
    rw [itemsStrings]
    split at h
    case h_1 name hname =>
      cases h
      rw [Pipeline.names, Value.eq_string_of_toString? hname, Value.strings]
      exact List.Subset.refl _
    case h_2 =>
      obtain ⟨head, hhead, h⟩ := bind_eq_ok.1 h
      obtain ⟨tail, htail, h⟩ := bind_eq_ok.1 h
      cases h
      rw [Pipeline.names]
      exact append_subset_append (Selector.names_subset_of_parse first hhead)
        (Selector.names_subset_of_parseRest (second :: rest) htail)

theorem Pipeline.names_subset_of_parseAccessor (v : Value) {p : Pipeline}
    (h : Pipeline.parseAccessor v = .ok p) : p.names ⊆ v.strings := by
  match v with
  | .string _ | .int _ | .array [_] =>
    cases h
    exact List.nil_subset _
  | .array [] | .array (_ :: _ :: _) | .null | .bool _ | .float _ =>
    exact absurd h refuse_ne_ok
  | .object fields =>
    obtain ⟨f, hf, rfl⟩ := map_eq_ok.1 h
    rw [Pipeline.names, Value.strings]
    exact FieldSelector.names_subset_of_parse fields hf

theorem FieldSelector.names_subset_of_parse (fields : List (String × Value)) {f : FieldSelector}
    (h : FieldSelector.parse fields = .ok f) : f.names ⊆ fieldsStrings fields := by
  match fields with
  | [] =>
    cases h
    exact List.nil_subset _
  | (key, v) :: fields =>
    have hfirst : v.strings ⊆ fieldsStrings ((key, v) :: fields) :=
      List.subset_cons_of_subset key (List.subset_append_left _ _)
    have hothers : fieldsStrings fields ⊆ fieldsStrings ((key, v) :: fields) :=
      List.subset_cons_of_subset key (List.subset_append_right _ _)
    rw [FieldSelector.parse] at h
    split at h
    · obtain ⟨s, hs, h⟩ := bind_eq_ok.1 h
      obtain ⟨g, hg, h⟩ := bind_eq_ok.1 h
      cases h
      obtain ⟨hfields, -, hfilter⟩ := FieldSelector.names_subset_iff.1
        (List.Subset.trans (FieldSelector.names_subset_of_parse fields hg) hothers)
      have hs := Selector.names_subset_of_parse v (located_eq_ok.1 hs)
      exact FieldSelector.names_subset_iff.2 ⟨hfields, List.Subset.trans hs hfirst, hfilter⟩
    · split at h
      · obtain ⟨p, hp, h⟩ := bind_eq_ok.1 h
        obtain ⟨g, hg, h⟩ := bind_eq_ok.1 h
        cases h
        obtain ⟨hfields, hremaining, -⟩ := FieldSelector.names_subset_iff.1
          (List.Subset.trans (FieldSelector.names_subset_of_parse fields hg) hothers)
        have hp := Predicate.names_subset_of_parse v (located_eq_ok.1 hp)
        exact FieldSelector.names_subset_iff.2 ⟨hfields, hremaining, List.Subset.trans hp hfirst⟩
      · obtain ⟨s, hs, h⟩ := bind_eq_ok.1 h
        obtain ⟨g, hg, h⟩ := bind_eq_ok.1 h
        cases h
        obtain ⟨hfields, hremaining, hfilter⟩ := FieldSelector.names_subset_iff.1
          (List.Subset.trans (FieldSelector.names_subset_of_parse fields hg) hothers)
        have hs := Selector.names_subset_of_parse v (located_eq_ok.1 hs)
        have hboth := List.append_subset.2 ⟨List.Subset.trans hs hfirst, hfields⟩
        exact FieldSelector.names_subset_iff.2
          ⟨List.cons_subset.2 ⟨List.mem_cons_self, hboth⟩, hremaining, hfilter⟩

end

end Reshape
