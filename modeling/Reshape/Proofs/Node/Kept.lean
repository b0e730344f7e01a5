import Reshape.Proofs.Node.Plan

/-!
# Ignored entries

The entries of a field selector that count are those that a plan keeps with the strategy of the
first (`keptEntries`). The others play no part in it: the node is that of the kept entries alone.
Each of them is told about in a notice of its own, and the last notice counts the fields that are
left.
-/

namespace Reshape

/-- The entries of a field selector that count, the first of which fixes the strategy. -/
def keptEntries (entries : List Entry) : List Entry := keptFrom (Strategy.choose entries) [] entries

theorem keptFrom_keptFrom (strategy : Strategy) (taken : List Key) (entries : List Entry) :
    keptFrom strategy taken (keptFrom strategy taken entries) =
      keptFrom strategy taken entries := by
  induction entries generalizing taken with
  | nil => rfl
  | cons entry entries ih =>
    by_cases h : entry.Matches strategy ∧ entry.dest ∉ taken
    · rw [keptFrom_cons_of_pos h, keptFrom_cons_of_pos h, ih]
    · rw [keptFrom_cons_of_neg h, ih]

/-- A plan warns of the entries that it does not keep, once of each. -/
theorem Kept.notices_of (strategy : Strategy) (taken : List Key) (entries : List Entry) :
    (∀ notice ∈ (Kept.of strategy taken entries).notices, notice.isWarning = true) ∧
      entries.length = (keptFrom strategy taken entries).length +
        (Kept.of strategy taken entries).notices.length := by
  induction entries generalizing taken with
  | nil => exact ⟨List.forall_mem_nil _, rfl⟩
  | cons entry entries ih =>
    by_cases h : entry.Matches strategy ∧ entry.dest ∉ taken
    · obtain ⟨hwarnings, hlength⟩ := ih (entry.dest :: taken)
      rw [Kept.of_cons_of_pos h, keptFrom_cons_of_pos h, List.length_cons, List.length_cons]
      exact ⟨hwarnings, by dsimp only; omega⟩
    · obtain ⟨hwarnings, hlength⟩ := ih taken
      obtain ⟨warning, hwarning, hof⟩ := Kept.of_cons_of_neg h entries
      rw [hof, keptFrom_cons_of_neg h, List.length_cons]
      exact ⟨List.forall_mem_cons.2 ⟨hwarning, hwarnings⟩, by dsimp only [List.length_cons]; omega⟩

theorem length_fields_add_length_exclusions (entries : List Entry) :
    (entries.filterMap Entry.field?).length + (entries.filterMap Entry.excluded?).length =
      entries.length := by
  induction entries with
  | nil => rfl
  | cons entry entries ih =>
    cases entry <;> simp only [List.filterMap_cons, Entry.field?, Entry.excluded?,
      List.length_cons] <;> omega

/-- The first entry matches the strategy that it fixes. -/
theorem Entry.matches_choose (entry : Entry) (entries : List Entry) :
    entry.Matches (Strategy.choose (entry :: entries)) := by
  cases entry with
  | field f => exact ⟨rfl, rfl⟩
  | exclusion dest => exact rfl

theorem head?_keptEntries (entries : List Entry) : (keptEntries entries).head? = entries.head? := by
  cases entries with
  | nil => rfl
  | cons entry entries =>
    rw [keptEntries, keptFrom_cons_of_pos ⟨entry.matches_choose entries, List.not_mem_nil⟩]
    rfl

theorem Strategy.choose_congr {entries others : List Entry} (h : entries.head? = others.head?) :
    choose entries = choose others := by
  cases entries with
  | nil =>
    rw [List.head?_eq_none_iff.1 h.symm]
  | cons entry entries =>
    obtain ⟨rest, rfl⟩ := List.head?_eq_some_iff.1 h.symm
    cases entry <;> rfl

/-- Entries with the same strategy, fields and exclusions make the same node. -/
theorem Node.plan_congr {entries others : List Entry} (hhead : entries.head? = others.head?)
    (hkept : keptEntries entries = keptEntries others) (remaining : Remaining)
    (filter : Option Test) : Node.plan entries remaining filter =
      Node.plan others remaining filter := by
  have hstrategy := Strategy.choose_congr hhead
  obtain ⟨hfields, hexcluded⟩ := Kept.of_eq_keptFrom (Strategy.choose entries) [] entries
  obtain ⟨hfields', hexcluded'⟩ := Kept.of_eq_keptFrom (Strategy.choose others) [] others
  have hf : (Kept.of (Strategy.choose entries) [] entries).fields =
      (Kept.of (Strategy.choose others) [] others).fields :=
    hfields.trans ((congrArg _ hkept).trans hfields'.symm)
  have hx : (Kept.of (Strategy.choose entries) [] entries).excluded =
      (Kept.of (Strategy.choose others) [] others).excluded :=
    hexcluded.trans ((congrArg _ hkept).trans hexcluded'.symm)
  rw [hstrategy] at hf hx
  simp only [Node.plan, hstrategy, hf, hx]

theorem keptEntries_keptEntries (entries : List Entry) :
    keptEntries (keptEntries entries) = keptEntries entries := by
  rw [keptEntries, Strategy.choose_congr (head?_keptEntries entries)]
  exact keptFrom_keptFrom _ [] entries

/-- Entries that are ignored are really ignored, and none is ignored in silence. The first entry is
always kept. The node of all entries is the node of the kept ones, so both make the same of every
input; it has the kept fields and the kept exclusions. The notices of its plan are one warning for
each entry that is not kept, and at last the number of the fields that are. -/
theorem Node.plan_keptEntries (entries : List Entry) (remaining : Remaining)
    (filter : Option Test) :
    let kept := keptEntries entries
    let node := Node.plan entries remaining filter
    kept.head? = entries.head? ∧ Node.plan kept remaining filter = node ∧
      node.fields = kept.filterMap Entry.field? ∧
      node.excluded = kept.filterMap Entry.excluded? ∧
      ∃ warnings grouped sorted,
        Node.planNotices entries =
          warnings ++ [.planned node.strategy node.fields.length grouped sorted] ∧
        (∀ notice ∈ warnings, notice.isWarning = true) ∧
        entries.length = node.fields.length + node.excluded.length + warnings.length := by
  intro kept node
  have hhead := head?_keptEntries entries
  obtain ⟨hfields, hexcluded⟩ := Kept.of_eq_keptFrom (Strategy.choose entries) [] entries
  obtain ⟨hwarnings, hlength⟩ := Kept.notices_of (Strategy.choose entries) [] entries
  refine ⟨hhead, Node.plan_congr hhead (keptEntries_keptEntries entries) remaining filter,
    hfields, hexcluded, _, _, _, rfl, hwarnings, ?_⟩
  have hsplit : node.fields.length + node.excluded.length = kept.length := by
    rw [← length_fields_add_length_exclusions kept]
    exact congrArg₂ (· + ·) (congrArg List.length hfields) (congrArg List.length hexcluded)
  rw [hsplit]
  exact hlength

end Reshape
