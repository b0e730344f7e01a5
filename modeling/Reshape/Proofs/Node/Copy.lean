import Reshape.Proofs.Node.GroupBy
import Reshape.Proofs.Node.Parts
import Reshape.Value.Identity

/-!
# Copying a record into an object

What a node that writes names, and neither filters nor groups, makes of one record, in terms of the
parts of the record.

The object holds the fields first. Behind them come, if they are asked for, the parts that no field
reads and whose text is not taken, in the order of the record (`Node.copies`). No name is written
twice, so no entry overwrites another one.
-/

namespace Reshape

namespace Node

variable {node : Node} {input : Value}

/-- What a field makes of the part that its key names. -/
def fieldValue (node : Node) (input : Value) (f : Field) : Option Value :=
  f.mapper (((node.strategy.source.parts input).find? (f.source.names input.width)).map (·.value))

/-- The parts of a record that no field reads and whose text no field writes and no exclusion takes,
mapped; absent ones are left out. -/
def copied (node : Node) (mapper : Mapper) (input : Value) : Record :=
  (node.strategy.source.parts input).filterMap fun part =>
    if node.fields.any (fun f => f.source.names input.width part) ||
        (node.dests ++ node.excluded).any (fun dest => dest.text == part.text) then none
    else (mapper (some part.value)).map fun v => (part.text, v)

/-- What is copied besides the fields: as it is asked for, and if nothing is said, all of it for a
node without fields. -/
def copies (node : Node) (input : Value) : Remaining → Record
  | .copied mapper => node.copied mapper input
  | .dropped => []
  | .unspecified => if node.fields.isEmpty then node.copied id input else []

theorem map_leftovers (hnode : node.Planned) (hdest : node.strategy.dest = .name)
    (hwidth : input.width < 2 ^ 63) (mapper : Mapper) :
    (node.leftovers mapper input).map (fun p => (p.1.text, p.2)) = node.copied mapper input := by
  rw [leftovers, KeyKind.entries_eq_map_parts, List.filterMap_map, List.map_filterMap, copied]
  refine List.filterMap_congr fun part hpart => ?_
  have hread : (node.fields.map fun f => f.source.resolve input).contains
      (part.key node.strategy.source) =
        node.fields.any fun f => f.source.names input.width part := by
    rw [Bool.eq_iff_iff, List.contains_iff_mem, List.mem_map, List.any_eq_true]
    refine exists_congr fun f => and_congr_right fun hf => ?_
    exact Key.resolve_eq_key_iff (hnode.source f hf) hpart (Nat.lt_trans hwidth (by decide))
  have hclaims : node.claims (part.key node.strategy.source) =
      (node.dests ++ node.excluded).any fun dest => dest.text == part.text := by
    rw [Bool.eq_iff_iff, node.claims_of_dest_name hdest, Part.text_key hpart hwidth, List.mem_map,
      List.any_eq_true]
    simp only [beq_iff_eq]
  simp only [Function.comp_apply, hread, hclaims]
  split
  · rfl
  · simp only [Option.map_map, Function.comp_def, Part.text_key hpart hwidth]

theorem map_read (hnode : node.Planned) :
    node.fields.map (fun f => f.mapper (f.source.read input)) =
      node.fields.map (node.fieldValue input) := by
  refine List.map_congr_left fun f hf => ?_
  rw [fieldValue, Key.read_eq (hnode.source f hf)]

/-- The row of a record that is no terminal value, if it is to become an object. -/
theorem extract_of_record (hdest : node.strategy.dest = .name)
    (hrecord : input.isTerminal = false) :
    node.extract input =
      let values := node.fields.map fun f => f.mapper (f.source.read input)
      if values.any Option.isNone then none
      else some ⟨values, node.remaining.elim [] (node.leftovers · input)⟩ := by
  rw [extract, hrecord, hdest, if_neg Bool.false_ne_true]
  cases node.remaining <;> rfl

/-- A node takes a record whole: an object, or a list if it reads positions. -/
def TakesWhole (node : Node) (input : Value) : Prop :=
  input.isObject = true ∨ input.isArray = true ∧ node.strategy.source = .position

theorem TakesWhole.isTerminal (h : node.TakesWhole input) : input.isTerminal = false := by
  cases input <;> first | rfl | simp [TakesWhole, Value.isObject, Value.isArray] at h

theorem TakesWhole.apply (h : node.TakesWhole input) :
    node.apply input = node.applyRecord input := by
  rcases h with hobject | ⟨-, hpositions⟩
  · refine node.apply_of_not_isArray ?_
    cases input <;> first | rfl | simp [Value.isObject] at hobject
  · exact node.apply_of_source_position hpositions input

theorem writeObject_map_some (dests : List Key) (values : List Value) (rest : List (Key × Value)) :
    writeObject dests ⟨values.map some, rest⟩ =
      (dests.map Key.text).zip values ++ rest.map fun p => (p.1.text, p.2) := by
  simp [writeObject, List.zip_map_left, List.zip_map_right, List.filterMap_map]

/-- An object writes no name twice. -/
theorem nodup_names_of_extract (hnode : node.Planned) (hdest : node.strategy.dest = .name)
    (hkeys : input.DistinctKeys) {row : Row} (h : node.extract input = some row) :
    ((writeObject node.dests row).map (·.1)).Nodup := by
  have hcomplete := complete_of_extract hdest h
  obtain ⟨hrest, hkinds⟩ := node.rest_of_extract h hkeys
  have hleft : (restEntries row).map (·.1) = (row.rest.map (·.1)).map Key.text := by
    rw [restEntries, List.map_map, List.map_map]
    rfl
  rw [hcomplete.writeObject_eq, List.map_append, hcomplete.map_fst_fieldEntries, hleft]
  refine List.nodup_append.2 ⟨hnode.nodup_names, ?_, ?_⟩
  · exact nodup_texts hrest (List.forall_mem_map.2 hkinds)
  · intro name hname text htext heq
    obtain ⟨field, hfield, rfl⟩ := List.mem_map.1 hname
    rw [List.map_map] at htext
    obtain ⟨p, hp, rfl⟩ := List.mem_map.1 htext
    exact hcomplete.fresh p hp field hfield heq.symm

section Planned

variable {entries : List Entry} {remaining : Remaining}
  (hplan : Node.plan entries remaining none = node)
include hplan

/-- Without a filter a planned node extracts and writes, and nothing else. -/
theorem apply_eq_map_write (hgroup : node.isGrouped = false) (hrecord : node.TakesWhole input) :
    node.apply input = (node.extract input).map node.write := by
  subst hplan
  have hpassthrough : (plan entries remaining none).passthrough = false := by
    cases remaining <;> simp [plan]
  have hpasses : (plan entries remaining none).passes input = true := rfl
  rw [hrecord.apply, applyRecord_of_not_isGrouped hgroup hpassthrough, if_pos hpasses]

/-- The leftovers of a planned node are what is to be copied besides the fields. -/
theorem map_rest_eq_copies (hdest : node.strategy.dest = .name) (hwidth : input.width < 2 ^ 63) :
    (node.remaining.elim [] (node.leftovers · input)).map (fun p => (p.1.text, p.2)) =
      node.copies input remaining := by
  have hnode : node.Planned := hplan ▸ planned_plan entries remaining none
  have hmap := map_leftovers hnode hdest hwidth
  subst hplan
  cases remaining with
  | dropped => rfl
  | copied mapper => exact hmap mapper
  | unspecified =>
    have hremaining : (plan entries .unspecified none).remaining =
        if (plan entries .unspecified none).fields.isEmpty then some id else none := rfl
    rw [copies, hremaining]
    split
    · exact hmap id
    · rfl

end Planned

/-- A planned node that writes names and neither filters nor groups makes of a record nothing if a
field makes nothing of its part, and otherwise an object that holds the fields, in their order, and
then what is to be copied besides; no name twice. Of the record it is asked what holds of every one:
an object has no name twice, and a list has no more elements than positions from zero up. -/
theorem apply_eq_object_of_record (entries : List Entry) (remaining : Remaining) {node : Node}
    (hplan : Node.plan entries remaining none = node) (hdest : node.strategy.dest = .name)
    (hgroup : node.isGrouped = false) (hrecord : node.TakesWhole input)
    (hkeys : input.DistinctKeys) (hwidth : input.width < 2 ^ 63) :
    (node.apply input = none ↔ ∃ f ∈ node.fields, node.fieldValue input f = none) ∧
      ∀ values, node.fields.map (node.fieldValue input) = values.map some →
        ∃ written, node.apply input = some (.object written) ∧
          written = (node.fields.map fun f => f.dest.text).zip values ++
            node.copies input remaining ∧
          (written.map (·.1)).Nodup := by
  have hnode : node.Planned := hplan ▸ planned_plan entries remaining none
  have hextract := extract_of_record hdest hrecord.isTerminal
  rw [map_read hnode] at hextract
  rw [apply_eq_map_write hplan hgroup hrecord]
  constructor
  · rw [Option.map_eq_none_iff, hextract]
    simp
  · intro values hvalues
    have hrow : node.extract input =
        some ⟨values.map some, node.remaining.elim [] (node.leftovers · input)⟩ := by
      rw [hextract, hvalues]
      simp
    have hwritten : writeObject node.dests
        ⟨values.map some, node.remaining.elim [] (node.leftovers · input)⟩ =
          (node.fields.map fun f => f.dest.text).zip values ++ node.copies input remaining := by
      rw [writeObject_map_some, map_rest_eq_copies hplan hdest hwidth, dests, List.map_map]
      rfl
    refine ⟨_, ?_, hwritten, nodup_names_of_extract hnode hdest hkeys hrow⟩
    rw [hrow, Option.map_some, write, hdest]

/-- Both ends of a list under names, and behind them what is in between, but for nulls and what
stands third. -/
theorem apply_ends_of_list :
    let present : Mapper := fun v => if v matches some .null then none else v
    let entries : List Entry := [.field ⟨.name "last", .position (-1), id, none, none⟩,
      .field ⟨.name "first", .position 0, id, none, none⟩, .exclusion (.name "2")]
    let node := Node.plan entries (.copied present) none
    let input := Value.array [.int 10, .null, .int 30, .int 40, .int 50]
    (node.apply input = none ↔ ∃ f ∈ node.fields, node.fieldValue input f = none) ∧
      ∃ written, node.apply input = some (.object written) ∧
        written = ["last", "first"].zip [.int 50, .int 10] ++
          node.copies input (.copied present) ∧
        (written.map (·.1)).Nodup ∧
        written = [("last", .int 50), ("first", .int 10), ("3", .int 40)] := by
  intro present entries node input
  have hplan : Node.plan entries (.copied present) none = node := rfl
  have hrecord : node.TakesWhole input := .inr ⟨rfl, rfl⟩
  have hwidth : input.width < 2 ^ 63 := by decide
  have hkeys : input.DistinctKeys := show 5 < 2 ^ 64 by decide
  obtain ⟨habsent, hpresent⟩ :=
    apply_eq_object_of_record entries (.copied present) hplan rfl rfl hrecord hkeys hwidth
  obtain ⟨written, happly, hwritten, hnodup⟩ := hpresent [.int 50, .int 10] (by decide)
  exact ⟨habsent, written, happly, hwritten, hnodup, hwritten.trans (by decide)⟩

end Node

end Reshape
