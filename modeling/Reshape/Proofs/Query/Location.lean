import Reshape.Proofs.Query.Parser

/-!
# Where errors lie

A path of keys leads into a value from object to object. Arrays have no part in it: any number of
them may be passed before, between and after the keys, from an array to any of its elements
(`Value.Reaches`). An error is truthful (`CompileError.TruthfulIn`) when its path leads somewhere,
when the name it reports is written there, and when the fragment it quotes is the text of a value
found there.

Parsing refuses a query for its shape only, and always quotes what it refuses
(`Selector.quotes_of_parse`, `Predicate.quotes_of_parse`).

Keys are put in front of an error one at a time, on the way from its place out to the whole query.
However many there are, the fault gets one layer (`CompileError.layered_cases`).
-/

namespace Reshape

/-! ## Layers -/

/-- An error as it grows on the way out: a fault, or an error found under some keys. -/
inductive Layered where
  | root (fault : Fault)
  | located (path : List String) (source : Layered)

/-- One more key, written into the outermost layer if there is one. -/
def Layered.under (key : String) : Layered → Layered
  | .located path source => .located (key :: path) source
  | .root fault => .located [key] (.root fault)

/-- An error with the layers that its keys put around the fault, the innermost key first. -/
def CompileError.layered (e : CompileError) : Layered :=
  e.path.foldr Layered.under (.root e.fault)

theorem CompileError.layered_under (key : String) (e : CompileError) :
    (e.under key).layered = e.layered.under key := rfl

/-- An error is a bare fault, or a fault in a single layer with at least one key. -/
theorem CompileError.layered_cases (e : CompileError) :
    e.path = [] ∧ e.layered = .root e.fault ∨
      e.path ≠ [] ∧ e.layered = .located e.path (.root e.fault) := by
  obtain ⟨path, fault⟩ := e
  induction path with
  | nil => exact .inl ⟨rfl, rfl⟩
  | cons key path ih =>
    refine .inr ⟨List.cons_ne_nil _ _, ?_⟩
    change ((CompileError.mk path fault).under key).layered = _
    rw [layered_under]
    obtain ⟨hpath, hlayers⟩ | ⟨-, hlayers⟩ := ih
    · cases hpath
      rw [hlayers]
      rfl
    · rw [hlayers]
      rfl

/-! ## Places -/

/-- Whether keys lead from a value to another: each from an object to one of its fields, with
arrays passed on the way. -/
inductive Value.Reaches : Value → List String → Value → Prop where
  | here (v : Value) : Reaches v [] v
  | item {items : List Value} {v w : Value} {path : List String} (mem : v ∈ items)
      (reaches : Reaches v path w) : Reaches (.array items) path w
  | field {fields : List (String × Value)} {key : String} {v w : Value} {path : List String}
      (mem : (key, v) ∈ fields) (reaches : Reaches v path w) :
      Reaches (.object fields) (key :: path) w

/-- Which keys lead where. -/
abbrev Reach := List String → Value → Prop

/-- From one of the items of a list. -/
def itemsReach (items : List Value) : Reach := fun path w => ∃ v ∈ items, v.Reaches path w

/-- From one of the fields of an object, its key being the first. -/
def fieldsReach (fields : List (String × Value)) : Reach := fun path w =>
  ∃ key v rest, path = key :: rest ∧ (key, v) ∈ fields ∧ v.Reaches rest w

section Places

variable {items others : List Value} {fields others' : List (String × Value)} {v w : Value}
  {path : List String}

theorem Value.Reaches.ofItems (h : itemsReach items path w) : Reaches (.array items) path w := by
  obtain ⟨v, hv, h⟩ := h
  exact .item hv h

theorem Value.Reaches.ofFields (h : fieldsReach fields path w) :
    Reaches (.object fields) path w := by
  obtain ⟨key, v, rest, rfl, hv, h⟩ := h
  exact .field hv h

theorem itemsReach_of_mem (hv : v ∈ items) (h : v.Reaches path w) : itemsReach items path w :=
  ⟨v, hv, h⟩

theorem itemsReach_mono (hsub : items ⊆ others) (h : itemsReach items path w) :
    itemsReach others path w := by
  obtain ⟨v, hv, h⟩ := h
  exact ⟨v, hsub hv, h⟩

theorem fieldsReach_mono (hsub : fields ⊆ others') (h : fieldsReach fields path w) :
    fieldsReach others' path w := by
  obtain ⟨key, v, rest, hpath, hv, h⟩ := h
  exact ⟨key, v, rest, hpath, hsub hv, h⟩

end Places

/-! ## Truthful errors -/

/-- Whether a selector is refused for its shape, which parsing alone decides. -/
def SelectorFault.isShape : SelectorFault → Bool
  | .zeroPriority | .fractionalPriority | .constantArity | .noAccessor => true
  | .positionTooLarge _ | .remainingReadsKey => false

/-- The fragment of a query that a fault of shape quotes. -/
def Fault.fragment? : Fault → Option String
  | .invalidSelector fragment why => if why.isShape then some fragment else none
  | .nestedDisjunction fragment => some fragment
  | _ => none

/-- The name that a fault reports as unknown. -/
def Fault.name? : Fault → Option String
  | .unknownFunction name | .unknownName name => some name
  | _ => none

namespace CompileError

/-- Whether what an error tells is to be found where its keys lead. -/
structure TruthfulIn (reach : Reach) (e : CompileError) : Prop where
  place : ∃ w, reach e.path w
  name : ∀ name, e.fault.name? = some name → reach e.path (.string name)
  fragment : ∀ text, e.fault.fragment? = some text → ∃ w, reach e.path w ∧ w.compact = text

/-- Whether an error quotes a value that its keys lead to. -/
def QuotesIn (reach : Reach) (e : CompileError) : Prop :=
  ∃ w, reach e.path w ∧ e.fault.fragment? = some w.compact

variable {reach reach' : Reach} {e : CompileError}

theorem TruthfulIn.mono (h : e.TruthfulIn reach)
    (hreach : ∀ {path w}, reach path w → reach' path w) : e.TruthfulIn reach' where
  place := h.place.imp fun _ => hreach
  name name hname := hreach (h.name name hname)
  fragment text htext := (h.fragment text htext).imp fun _ hw => ⟨hreach hw.1, hw.2⟩

theorem QuotesIn.mono (h : e.QuotesIn reach)
    (hreach : ∀ {path w}, reach path w → reach' path w) : e.QuotesIn reach' :=
  h.imp fun _ hw => ⟨hreach hw.1, hw.2⟩

theorem name?_of_fragment? {fault : Fault} {text : String} (h : fault.fragment? = some text) :
    fault.name? = none := by
  cases fault with
  | invalidSelector fragment why => rfl
  | nestedDisjunction fragment => rfl
  | _ => cases h

theorem QuotesIn.truthfulIn (h : e.QuotesIn reach) : e.TruthfulIn reach := by
  obtain ⟨w, hreach, hw⟩ := h
  refine ⟨⟨w, hreach⟩, fun name hname => ?_, fun text htext => ⟨w, hreach, ?_⟩⟩
  · cases (name?_of_fragment? hw).symm.trans hname
  · exact Option.some_inj.1 (hw.symm.trans htext)

/-- An error in the value of a field lies, with its key in front, in the fields. -/
theorem TruthfulIn.under {fields : List (String × Value)} {key : String} {v : Value}
    (hv : (key, v) ∈ fields) (h : e.TruthfulIn v.Reaches) :
    (e.under key).TruthfulIn (fieldsReach fields) := by
  have hreach : ∀ {w}, v.Reaches e.path w → fieldsReach fields (e.under key).path w :=
    fun hw => ⟨key, v, e.path, rfl, hv, hw⟩
  exact ⟨h.place.imp fun _ => hreach, fun name hname => hreach (h.name name hname),
    fun text htext => (h.fragment text htext).imp fun _ hw => ⟨hreach hw.1, hw.2⟩⟩

theorem QuotesIn.under {fields : List (String × Value)} {key : String} {v : Value}
    (hv : (key, v) ∈ fields) (h : e.QuotesIn v.Reaches) :
    (e.under key).QuotesIn (fieldsReach fields) :=
  h.imp fun _ hw => ⟨⟨key, v, e.path, rfl, hv, hw.1⟩, hw.2⟩

/-- A fault that neither reports a name nor quotes anything is truthful at any place. -/
theorem truthfulIn_of {fault : Fault} {w : Value} (hreach : reach [] w)
    (hname : fault.name? = none) (hfragment : fault.fragment? = none) :
    (CompileError.of fault).TruthfulIn reach where
  place := ⟨w, hreach⟩
  name _ h := nomatch hname.symm.trans h
  fragment _ h := nomatch hfragment.symm.trans h

/-- An unknown name is truthful where it is written. -/
theorem truthfulIn_of_name {fault : Fault} {name : String} (hreach : reach [] (.string name))
    (hname : fault.name? = some name) (hfragment : fault.fragment? = none) :
    (CompileError.of fault).TruthfulIn reach where
  place := ⟨_, hreach⟩
  name _ h := Option.some_inj.1 (hname.symm.trans h) ▸ hreach
  fragment _ h := nomatch hfragment.symm.trans h

end CompileError

/-! ## Failures -/

/-- Whether all errors that a computation can end in have a property. -/
def FailsWith {α : Type} (P : CompileError → Prop) (x : Except CompileError α) : Prop :=
  ∀ e, x = .error e → P e

namespace FailsWith

variable {α β : Type} {P Q : CompileError → Prop} {x : Except CompileError α}

theorem ok (a : α) : FailsWith P (.ok a) := fun _ h => nomatch h

theorem error {e : CompileError} (h : P e) : FailsWith P (.error e : Except CompileError α) := by
  rintro _ ⟨⟩
  exact h

theorem refuse {fault : Fault} (h : P (.of fault)) : FailsWith P (refuse fault : Except _ α) :=
  .error h

theorem mono (h : FailsWith P x) (himp : ∀ {e}, P e → Q e) : FailsWith Q x :=
  fun e he => himp (h e he)

theorem bind {f : α → Except CompileError β} (h : FailsWith P x)
    (hf : ∀ a, x = .ok a → FailsWith P (f a)) : FailsWith P (x >>= f) := by
  cases x with
  | error e => exact .error (h e rfl)
  | ok a => exact hf a rfl

theorem map {f : α → β} (h : FailsWith P x) : FailsWith P (f <$> x) := by
  cases x with
  | error e => exact .error (h e rfl)
  | ok a => exact .ok (f a)

theorem located {key : String} (h : FailsWith (fun e => P (e.under key)) x) :
    FailsWith P (located key x) := by
  cases x with
  | error e => exact .error (h e rfl)
  | ok a => exact .ok a

end FailsWith

open CompileError (QuotesIn TruthfulIn)

section Located

variable {α : Type} {fields : List (String × Value)} {key : String} {v : Value}
  {x : Except CompileError α}

/-- What fails truthfully in the value of a field fails truthfully in the fields, under the key. -/
theorem truthful_located (hv : (key, v) ∈ fields) (h : FailsWith (TruthfulIn v.Reaches) x) :
    FailsWith (TruthfulIn (fieldsReach fields)) (located key x) :=
  .located (h.mono (·.under hv))

theorem quotes_located (hv : (key, v) ∈ fields) (h : FailsWith (QuotesIn v.Reaches) x) :
    FailsWith (QuotesIn (fieldsReach fields)) (located key x) :=
  .located (h.mono (·.under hv))

end Located

/-! ## Parsing -/

namespace Predicate

mutual

/-- Parsing a predicate fails for a disjunction in it only, which the error quotes. -/
theorem quotes_of_parse (v : Value) : FailsWith (QuotesIn v.Reaches) (parse v) := by
  match v with
  | .object fields => exact ((quotes_of_parseEntries fields).mono (·.mono .ofFields)).map
  | .array items =>
    refine FailsWith.map ((quotes_of_parseAlternatives (.array items) items).mono ?_)
    rintro e (h | rfl)
    · exact h.mono .ofItems
    · exact ⟨_, .here _, rfl⟩
  | .null | .bool _ | .int _ | .float _ | .string _ => exact .ok _

theorem quotes_of_parseEntries (fields : List (String × Value)) :
    FailsWith (QuotesIn (fieldsReach fields)) (parseEntries fields) := by
  match fields with
  | [] => exact .ok _
  | (key, v) :: fields =>
    have hmem : (key, v) ∈ (key, v) :: fields := List.mem_cons_self
    have hentry := quotes_located hmem (quotes_of_parse v)
    have hentries := (quotes_of_parseEntries fields).mono
      (·.mono (fieldsReach_mono (List.subset_cons_self (key, v) fields)))
    rw [parseEntries]
    exact hentry.bind fun _ _ => hentries.bind fun _ _ => .ok _

/-- The only error about alternatives that does not lie in one of them is that one is a disjunction
itself. -/
theorem quotes_of_parseAlternatives (whole : Value) (items : List Value) :
    FailsWith (fun e => e.QuotesIn (itemsReach items) ∨ e = .of (.nestedDisjunction whole.compact))
      (parseAlternatives whole items) := by
  match items with
  | [] => exact .ok _
  | v :: items =>
    have halternatives := (quotes_of_parseAlternatives whole items).mono
      (Or.imp_left (·.mono (itemsReach_mono (List.subset_cons_self v items))))
    rw [parseAlternatives]
    split
    · exact .refuse (.inr rfl)
    · refine FailsWith.bind ((quotes_of_parse v).mono ?_) fun _ _ =>
        halternatives.bind fun _ _ => .ok _
      exact fun h => .inl (h.mono (itemsReach_of_mem List.mem_cons_self))

end

end Predicate

mutual

/-- Parsing a selector fails for a part of it that has no meaning, which the error quotes. -/
theorem Selector.quotes_of_parse (v : Value) :
    FailsWith (QuotesIn v.Reaches) (Selector.parse v) := by
  match v with
  | .null | .bool false | .bool true | .string _ => exact .ok _
  | .int n =>
    rw [Selector.parse]
    split
    · exact .refuse ⟨_, .here _, rfl⟩
    · exact .ok _
  | .float x => exact .refuse ⟨_, .here _, rfl⟩
  | .array elements => exact ((Pipeline.quotes_of_parse elements).mono (·.mono .ofItems)).map
  | .object fields => exact ((FieldSelector.quotes_of_parse fields).mono (·.mono .ofFields)).map

theorem Selector.quotes_of_parseRest (args : List Value) :
    FailsWith (QuotesIn (itemsReach args)) (Selector.parseRest args) := by
  match args with
  | [single] =>
    exact (Selector.quotes_of_parse single).mono (·.mono (itemsReach_of_mem List.mem_cons_self))
  | [] => exact (Pipeline.quotes_of_parse []).map
  | first :: second :: rest => exact (Pipeline.quotes_of_parse (first :: second :: rest)).map

theorem Pipeline.quotes_of_parse (elements : List Value) :
    FailsWith (QuotesIn (itemsReach elements)) (Pipeline.parse elements) := by
  match elements with
  | [] => exact .ok _
  | [element] =>
    exact (Pipeline.quotes_of_parseAccessor element).mono
      (·.mono (itemsReach_of_mem List.mem_cons_self))
  | first :: second :: rest =>
    have hhead : FailsWith (QuotesIn (itemsReach (first :: second :: rest)))
        (Selector.parse first) :=
      (Selector.quotes_of_parse first).mono (·.mono (itemsReach_of_mem List.mem_cons_self))
    have htail := (Selector.quotes_of_parseRest (second :: rest)).mono
      (·.mono (itemsReach_mono (List.subset_cons_self first _)))
    rw [Pipeline.parse_cons first (List.cons_ne_nil second rest)]
    split
    · exact .ok _
    · exact hhead.bind fun _ _ => htail.bind fun _ _ => .ok _

theorem Pipeline.quotes_of_parseAccessor (v : Value) :
    FailsWith (QuotesIn v.Reaches) (Pipeline.parseAccessor v) := by
  match v with
  | .string _ | .int _ | .array [_] => exact .ok _
  | .array [] | .array (_ :: _ :: _) | .null | .bool _ | .float _ =>
    exact .refuse ⟨_, .here _, rfl⟩
  | .object fields => exact ((FieldSelector.quotes_of_parse fields).mono (·.mono .ofFields)).map

theorem FieldSelector.quotes_of_parse (fields : List (String × Value)) :
    FailsWith (QuotesIn (fieldsReach fields)) (FieldSelector.parse fields) := by
  match fields with
  | [] => exact .ok _
  | (key, v) :: fields =>
    have hmem : (key, v) ∈ (key, v) :: fields := List.mem_cons_self
    have hselector := quotes_located hmem (Selector.quotes_of_parse v)
    have hpredicate := quotes_located hmem (Predicate.quotes_of_parse v)
    have hrest := (FieldSelector.quotes_of_parse fields).mono
      (·.mono (fieldsReach_mono (List.subset_cons_self (key, v) fields)))
    have hpart : FailsWith (QuotesIn (fieldsReach ((key, v) :: fields)))
        (WrittenPart.parse key v) := by
      rw [WrittenPart.parse]
      split
      · exact hselector.map
      · split
        · exact hpredicate.map
        · exact hselector.map
    rw [FieldSelector.parse_cons]
    exact hpart.bind fun _ _ => hrest.bind fun _ _ => .ok _

end

end Reshape
