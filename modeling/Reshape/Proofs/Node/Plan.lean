import Reshape.Node.Plan
import Mathlib.Data.List.Nodup

/-!
# What a planned node can be relied on for

Going through the entries of a field selector, a plan keeps those that match the strategy and whose
destination no kept entry before has taken (`keptFrom`). So however its entries were written, a
planned node writes to every destination at most once, keys of the two kinds it is planned for, and
hands terminal values through only if it has no field.

What one entry does to a plan is said once for each of the two cases (`Kept.of_cons_of_pos`,
`Kept.of_cons_of_neg`); the rest goes by induction on the entries with any destinations taken
before.
-/

namespace Reshape

/-! ## Kept entries -/

namespace Entry

/-- The destination of an entry. -/
def dest : Entry → Key
  | .field f => f.dest
  | .exclusion dest => dest

/-- Whether the keys of an entry are of the kinds that a node reads and writes. -/
def Matches (strategy : Strategy) : Entry → Prop
  | .field f => f.source.kind = strategy.source ∧ f.dest.kind = strategy.dest
  | .exclusion dest => dest.kind = strategy.dest

instance (strategy : Strategy) : DecidablePred (Matches strategy)
  | .field _ => inferInstanceAs (Decidable (_ ∧ _))
  | .exclusion _ => inferInstanceAs (Decidable (_ = _))

def field? : Entry → Option Field
  | .field f => some f
  | .exclusion _ => none

def excluded? : Entry → Option Key
  | .field _ => none
  | .exclusion dest => some dest

end Entry

/-- The entries that match a strategy and whose destination neither is taken nor belongs to an entry
kept before. -/
def keptFrom (strategy : Strategy) (taken : List Key) : List Entry → List Entry
  | [] => []
  | entry :: entries =>
    if entry.Matches strategy ∧ entry.dest ∉ taken then
      entry :: keptFrom strategy (entry.dest :: taken) entries
    else keptFrom strategy taken entries

section Kept

variable {strategy : Strategy} {taken : List Key} {entry : Entry} {entries : List Entry}

theorem keptFrom_cons_of_pos (h : entry.Matches strategy ∧ entry.dest ∉ taken) :
    keptFrom strategy taken (entry :: entries) =
      entry :: keptFrom strategy (entry.dest :: taken) entries := if_pos h

theorem keptFrom_cons_of_neg (h : ¬(entry.Matches strategy ∧ entry.dest ∉ taken)) :
    keptFrom strategy taken (entry :: entries) = keptFrom strategy taken entries := if_neg h

theorem mem_keptFrom (h : entry ∈ keptFrom strategy taken entries) :
    entry ∈ entries ∧ entry.Matches strategy ∧ entry.dest ∉ taken := by
  induction entries generalizing taken with
  | nil => cases h
  | cons first entries ih =>
    by_cases hfirst : first.Matches strategy ∧ first.dest ∉ taken
    · rw [keptFrom_cons_of_pos hfirst] at h
      rcases List.mem_cons.1 h with rfl | h
      · exact ⟨List.mem_cons_self, hfirst⟩
      · obtain ⟨hmem, hmatch, hfree⟩ := ih h
        exact ⟨List.mem_cons_of_mem _ hmem, hmatch,
          fun htaken => hfree (List.mem_cons_of_mem _ htaken)⟩
    · rw [keptFrom_cons_of_neg hfirst] at h
      obtain ⟨hmem, hkept⟩ := ih h
      exact ⟨List.mem_cons_of_mem _ hmem, hkept⟩

/-- No two kept entries have one destination. -/
theorem nodup_dests_keptFrom (strategy : Strategy) (taken : List Key) (entries : List Entry) :
    ((keptFrom strategy taken entries).map Entry.dest).Nodup := by
  induction entries generalizing taken with
  | nil => exact List.nodup_nil
  | cons entry entries ih =>
    by_cases h : entry.Matches strategy ∧ entry.dest ∉ taken
    · rw [keptFrom_cons_of_pos h]
      refine List.nodup_cons.2 ⟨fun hmem => ?_, ih (entry.dest :: taken)⟩
      obtain ⟨other, hother, hdest⟩ := List.mem_map.1 hmem
      exact (mem_keptFrom hother).2.2 (hdest ▸ List.mem_cons_self)
    · rw [keptFrom_cons_of_neg h]
      exact ih taken

/-- All entries are kept when all match and no two have one destination. -/
theorem keptFrom_eq_self (hmatch : ∀ e ∈ entries, e.Matches strategy)
    (hdests : (entries.map Entry.dest).Nodup) (hfree : ∀ e ∈ entries, e.dest ∉ taken) :
    keptFrom strategy taken entries = entries := by
  induction entries generalizing taken with
  | nil => rfl
  | cons entry entries ih =>
    obtain ⟨hentry, hentries⟩ := List.forall_mem_cons.1 hmatch
    obtain ⟨hdest, hnodup⟩ := List.nodup_cons.1 hdests
    obtain ⟨hnew, hold⟩ := List.forall_mem_cons.1 hfree
    have hfree' : ∀ e ∈ entries, e.dest ∉ entry.dest :: taken := by
      intro e he hmem
      rcases List.mem_cons.1 hmem with heq | hmem
      · exact hdest (heq ▸ List.mem_map_of_mem he)
      · exact hold e he hmem
    rw [keptFrom_cons_of_pos ⟨hentry, hnew⟩, ih hentries hnodup hfree']

/-- An entry that is kept comes first in the fields or in the exclusions. -/
theorem Kept.of_cons_of_pos (h : entry.Matches strategy ∧ entry.dest ∉ taken) :
    Kept.of strategy taken (entry :: entries) =
      let kept := Kept.of strategy (entry.dest :: taken) entries
      ⟨entry.field?.toList ++ kept.fields, entry.excluded?.toList ++ kept.excluded,
        kept.notices⟩ := by
  obtain ⟨hmatch, hfree⟩ := h
  cases entry with
  | field f =>
    have hkinds : ¬(f.source.kind ≠ strategy.source ∨ f.dest.kind ≠ strategy.dest) :=
      not_or.2 ⟨not_not_intro hmatch.1, not_not_intro hmatch.2⟩
    rw [Kept.of, if_neg hkinds, if_neg (c := f.dest ∈ taken) hfree]
    rfl
  | exclusion dest =>
    rw [Kept.of, if_neg (c := dest.kind ≠ strategy.dest) (not_not_intro hmatch),
      if_neg (c := dest ∈ taken) hfree]
    rfl

/-- Of any other entry a warning is all that is left. -/
theorem Kept.of_cons_of_neg (h : ¬(entry.Matches strategy ∧ entry.dest ∉ taken))
    (entries : List Entry) :
    ∃ warning : Notice, warning.isWarning = true ∧
      Kept.of strategy taken (entry :: entries) =
        let kept := Kept.of strategy taken entries
        ⟨kept.fields, kept.excluded, warning :: kept.notices⟩ := by
  cases entry with
  | field f =>
    rw [Kept.of]
    split
    · exact ⟨_, rfl, rfl⟩
    · split
      · exact ⟨_, rfl, rfl⟩
      case isFalse hkinds hfree =>
        obtain ⟨hsource, hdest⟩ := not_or.1 hkinds
        exact absurd ⟨⟨of_not_not hsource, of_not_not hdest⟩, hfree⟩ h
  | exclusion dest =>
    rw [Kept.of]
    split
    · exact ⟨_, rfl, rfl⟩
    · split
      · exact ⟨_, rfl, rfl⟩
      case isFalse hkind hfree => exact absurd ⟨of_not_not hkind, hfree⟩ h

/-- A plan has the fields and the exclusions of the kept entries. -/
theorem Kept.of_eq_keptFrom (strategy : Strategy) (taken : List Key) (entries : List Entry) :
    (Kept.of strategy taken entries).fields =
        (keptFrom strategy taken entries).filterMap Entry.field? ∧
      (Kept.of strategy taken entries).excluded =
        (keptFrom strategy taken entries).filterMap Entry.excluded? := by
  induction entries generalizing taken with
  | nil => exact ⟨rfl, rfl⟩
  | cons entry entries ih =>
    by_cases h : entry.Matches strategy ∧ entry.dest ∉ taken
    · obtain ⟨hfields, hexcluded⟩ := ih (entry.dest :: taken)
      rw [Kept.of_cons_of_pos h, keptFrom_cons_of_pos h, List.filterMap_cons, List.filterMap_cons,
        ← hfields, ← hexcluded]
      cases entry <;> exact ⟨rfl, rfl⟩
    · obtain ⟨warning, -, hof⟩ := Kept.of_cons_of_neg h entries
      rw [hof, keptFrom_cons_of_neg h]
      exact ih taken

/-- A kept field is that of an entry, has keys of the right kinds, and nothing before it took its
destination. -/
theorem Kept.mem_fields {field : Field} (h : field ∈ (Kept.of strategy taken entries).fields) :
    .field field ∈ entries ∧ field.source.kind = strategy.source ∧
      field.dest.kind = strategy.dest ∧ field.dest ∉ taken := by
  rw [(Kept.of_eq_keptFrom strategy taken entries).1] at h
  obtain ⟨entry, hentry, hfield⟩ := List.mem_filterMap.1 h
  cases entry with
  | field f =>
    obtain rfl := Option.some_inj.1 hfield
    obtain ⟨hmem, ⟨hsource, hdest⟩, hfree⟩ := mem_keptFrom hentry
    exact ⟨hmem, hsource, hdest, hfree⟩
  | exclusion dest => cases hfield

/-- No two kept fields have one destination. -/
theorem Kept.nodup_dests : ((Kept.of strategy taken entries).fields.map (·.dest)).Nodup := by
  rw [(Kept.of_eq_keptFrom strategy taken entries).1]
  have hnodup := List.pairwise_map.1 (nodup_dests_keptFrom strategy taken entries)
  refine List.pairwise_map.2 (hnodup.filterMap Entry.field? fun entry other hne f hf g hg => ?_)
  cases entry <;> cases hf
  cases other <;> cases hg
  exact hne

end Kept

/-! ## Planned nodes -/

/-- The invariants of a planned node. -/
structure Node.Planned (node : Node) : Prop where
  nodup : node.dests.Nodup
  source : ∀ field ∈ node.fields, field.source.kind = node.strategy.source
  dest : ∀ field ∈ node.fields, field.dest.kind = node.strategy.dest
  passthrough : node.passthrough = true → node.fields = []

theorem Node.Planned.not_passthrough {node : Node} (h : node.Planned) (hfields : node.fields ≠ []) :
    node.passthrough = false :=
  Bool.eq_false_iff.2 fun hpassthrough => hfields (h.passthrough hpassthrough)

theorem Node.planned_plan (entries : List Entry) (remaining : Remaining) (filter : Option Test) :
    (Node.plan entries remaining filter).Planned where
  nodup := Kept.nodup_dests
  source _ hfield := (Kept.mem_fields hfield).2.1
  dest _ hfield := (Kept.mem_fields hfield).2.2.1
  passthrough h := by
    cases remaining with
    | unspecified => exact List.isEmpty_iff.1 (Bool.and_eq_true_iff.1 h).1
    | dropped => cases h
    | copied mapper => cases h

end Reshape
