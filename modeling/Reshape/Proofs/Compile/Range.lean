import Reshape.Proofs.Compile.Checked
import Reshape.Proofs.Related

/-!
# Queries run within range

Building a query with checked indices ends as compiling it does (`Agrees`): it is refused for the
same reason, or gives the same transformation, one that takes no index out of range on any input,
and nodes all of which are aligned. The proof goes piece by piece along the functions of the
compiler, and no index is out of range in a piece because none is in its parts.
-/

namespace Reshape

/-! ## Agreement -/

/-- Whether building ends as compiling does: refused for the same reason, or with related results.
No index was out of range then. -/
inductive Agrees {α β : Type} (R : α → β → Prop) : Building α → Except CompileError β → Prop where
  | ok {a : α} {b : β} (h : R a b) : Agrees R (.ok a) (.ok b)
  | refused (e : CompileError) : Agrees R (.error (.refused e)) (.error e)

namespace Agrees

variable {α β γ δ : Type} {R : α → β → Prop} {S : γ → δ → Prop}
variable {x : Building α} {y : Except CompileError β}

theorem bind {f : α → Building γ} {g : β → Except CompileError δ} (h : Agrees R x y)
    (hf : ∀ a b, R a b → Agrees S (f a) (g b)) : Agrees S (x >>= f) (y >>= g) := by
  cases h with
  | ok h => exact hf _ _ h
  | refused e => exact .refused e

theorem exists_ok {b : β} (h : Agrees R x (.ok b)) : ∃ a, x = .ok a ∧ R a b := by
  cases h with
  | ok h => exact ⟨_, rfl, h⟩

/-- A step that builds nothing is taken as it is. -/
theorem refusing (y : Except CompileError β) : Agrees (· = ·) (refusing y) y := by
  cases y with
  | ok b => exact .ok rfl
  | error e => exact .refused e

theorem located (key : String) (h : Agrees R x y) :
    Agrees R (locatedStep key x) (Reshape.located key y) := by
  cases h with
  | ok h => exact .ok h
  | refused e => exact .refused _

end Agrees

/-! ## Pieces -/

/-- A compiled selector with its transformation, which takes no index out of range, and the nodes
inside. -/
def Compiled.checked (c : Compiled) (nodes : List CheckedNode) : CheckedCompiled :=
  ⟨c.source, Mapper.checked c.mapper, c.aggregation, c.sort, nodes⟩

/-- Whether what was built does what was compiled and has aligned nodes. -/
def CheckedCompiled.RunsAs (built : CheckedCompiled) (c : Compiled) : Prop :=
  ∃ nodes, built = c.checked nodes ∧ ∀ node ∈ nodes, node.Aligned

/-- Whether a built argument is the compiled one. -/
inductive CheckedArgument.RunsAs : CheckedArgument → Argument → Prop where
  | read {built : CheckedCompiled} {c : Compiled} (h : built.RunsAs c) :
    RunsAs (.read built) (.read c)
  | constant (v : Value) : RunsAs (.constant v) (.constant v)

section Pieces

theorem runsAs_of_eq {built : CheckedCompiled} {c : Compiled} (h : built = c.checked []) :
    built.RunsAs c := ⟨[], h, List.forall_mem_nil _⟩

/-- Nothing is out of range in two steps when nothing is in either. -/
theorem andThen_checked {m : Mapper} {step : Value → Checked (Option Value)}
    {g : Value → Option Value} (h : ∀ w, step w = .ok (g w)) :
    CheckedMapper.andThen (Mapper.checked m) step = Mapper.checked fun v => (m v).bind g := by
  funext v
  simp only [CheckedMapper.andThen, Mapper.checked]
  cases m v with
  | none => rfl
  | some w => exact h w

theorem toEntry_checked (c : Compiled) (nodes : List CheckedNode) (dest : Key) :
    (c.checked nodes).toEntry dest = (c.toEntry dest).checked := by
  unfold CheckedCompiled.toEntry Compiled.toEntry
  cases hsource : c.source <;> simp only [Compiled.checked, hsource] <;> rfl

theorem withoutDirectives_checked (c : Compiled) (nodes : List CheckedNode) (place : Place) :
    (c.checked nodes).withoutDirectives place = refusing (c.withoutDirectives place) := rfl

theorem agrees_toRemaining (c : Compiled) (nodes : List CheckedNode) :
    Agrees (fun built remaining => built = Remaining.checked remaining)
      (c.checked nodes).toRemaining c.toRemaining := by
  rw [CheckedCompiled.toRemaining, withoutDirectives_checked, Compiled.toRemaining]
  cases c.withoutDirectives .remaining with
  | error e => exact .refused e
  | ok _ =>
    have hsource : (c.checked nodes).source = c.source := rfl
    simp only [hsource]
    cases c.source with
    | excluded => exact .ok rfl
    | same => exact .ok rfl
    | key k => exact .refused _

theorem agrees_aggregated (rest : Compiled) {nodes : List CheckedNode}
    (hnodes : ∀ node ∈ nodes, node.Aligned) (name : String) (aggregation : Aggregation) :
    Agrees CheckedCompiled.RunsAs ((rest.checked nodes).aggregated name aggregation)
      (if rest.aggregation.isSome then refuse (.misplacedDirective name .nested)
        else if rest.source = .excluded then refuse (.misplacedDirective name .excluded)
        else pure { rest with aggregation := some aggregation }) := by
  change Agrees _
    (if rest.aggregation.isSome then _ else if rest.source = .excluded then _ else _) _
  split
  · exact .refused _
  · split
    · exact .refused _
    · exact .ok ⟨nodes, rfl, hnodes⟩

theorem distributes_checked (node : Node) : node.checked.distributes = node.distributes := rfl

/-- A step of a chain is run in range. -/
theorem step_checked (tail : Compiled) (v : Value) :
    tail.stepNode.checked.step v = .ok (tail.step v) := by
  have hnode : tail.stepNode.Planned := Node.planned_plan _ _ _
  rw [CheckedNode.step, Node.apply_checked hnode, distributes_checked, Compiled.step]
  cases hwritten : tail.stepNode.apply v with
  | none => rfl
  | some written =>
    simp only [bind, Except.bind, Option.bind_some]
    split
    · cases written <;> rfl
    · rfl

theorem stepEntry_checked (tail : Compiled) (nodes : List CheckedNode) :
    (tail.checked nodes).stepEntry = tail.stepEntry.checked := by
  cases hsource : tail.source <;>
    simp only [CheckedCompiled.stepEntry, Compiled.checked, Compiled.stepEntry, hsource] <;> rfl

theorem agrees_chain (head tail : Compiled) {headNodes tailNodes : List CheckedNode}
    (hhead : ∀ node ∈ headNodes, node.Aligned) (htail : ∀ node ∈ tailNodes, node.Aligned) :
    Agrees CheckedCompiled.RunsAs ((head.checked headNodes).chain (tail.checked tailNodes))
      (.ok (head.chain tail)) := by
  have hbuilt : CheckedNode.build [(tail.checked tailNodes).stepEntry] .dropped none =
      .ok tail.stepNode.checked := by
    rw [stepEntry_checked]
    exact CheckedNode.build_eq_ok [tail.stepEntry] .dropped none
  rw [CheckedCompiled.chain, hbuilt]
  have hstep : ∀ entry ∈ [tail.stepEntry], entry.dest.tupleLength ≤ 65536 := by
    intro entry hentry
    rw [List.mem_singleton.1 hentry]
    exact show (Key.position 0).tupleLength ≤ 65536 by decide
  refine .ok ⟨headNodes ++ tailNodes ++ [tail.stepNode.checked], ?_, ?_⟩
  · exact congrArg (CheckedCompiled.mk head.source · _ _ _) (andThen_checked (step_checked tail))
  · simp only [List.forall_mem_append, List.forall_mem_singleton]
    exact ⟨⟨hhead, htail⟩, Node.aligned_plan hstep _ _⟩

theorem rel_read? {a : CheckedArgument} {b : Argument} (h : a.RunsAs b) :
    Option.Rel CheckedCompiled.RunsAs a.read? b.read? := by
  cases h with
  | read h => exact .some h
  | constant v => exact .none

theorem isSome_read? {a : CheckedArgument} {b : Argument} (h : a.RunsAs b) :
    a.read?.isSome = b.read?.isSome := by
  cases h <;> rfl

theorem template_eq {a : CheckedArgument} {b : Argument} (h : a.RunsAs b) :
    a.template = b.template := by
  cases h <;> rfl

/-- What was read is put in range among the constants. -/
theorem applyAt_eq_ok (f : Transform) {args : List Argument} {read : Compiled}
    (h : read ∈ args.filterMap Argument.read?) (v : Value) :
    f.applyAt (args.map Argument.template) (args.findIdx (·.read?.isSome)) v =
      .ok (some (f.apply
        ((args.map Argument.template).set (args.findIdx (·.read?.isSome)) v))) := by
  have hslot : args.findIdx (·.read?.isSome) < (args.map Argument.template).length := by
    obtain ⟨arg, harg, hread⟩ := List.mem_filterMap.1 h
    rw [List.length_map]
    exact List.findIdx_lt_length_of_exists ⟨arg, harg, by rw [hread]; rfl⟩
  rw [Transform.applyAt]
  split
  -- A single argument is the read itself, and what was read is handed over as it is.
  case isTrue hone =>
    obtain ⟨constant, htemplate⟩ := List.length_eq_one_iff.1 hone
    have hfirst : args.findIdx (·.read?.isSome) = 0 := by omega
    rw [htemplate, hfirst]
    rfl
  case isFalse =>
    rw [store_eq_ok hslot]
    rfl

/-- A call is built as it is compiled. -/
theorem agrees_call (f : Transform) (name : String) (written : List Value)
    {built : List CheckedArgument} {args : List Argument}
    (h : List.Forall₂ CheckedArgument.RunsAs built args) :
    Agrees CheckedCompiled.RunsAs (f.callChecked name written built)
      (f.call name written args) := by
  have hreads := List.rel_filterMap (fun _ _ h => rel_read? h) h
  have htemplate : built.map CheckedArgument.template = args.map Argument.template :=
    map_eq_of_forall₂ (h.imp fun _ _ h => template_eq h)
  have hslot : built.findIdx (·.read?.isSome) = args.findIdx (·.read?.isSome) := by
    have hsome : built.map (·.read?.isSome) = args.map (·.read?.isSome) :=
      map_eq_of_forall₂ (h.imp fun _ _ h => isSome_read? h)
    have hfound := congrArg (List.findIdx id) hsome
    rwa [List.findIdx_map, List.findIdx_map] at hfound
  rw [Transform.callChecked.eq_def, Transform.call.eq_def, htemplate, hslot]
  -- Both go by how many arguments read: one, or else the refusal says how many.
  rcases hread : args.filterMap Argument.read? with _ | ⟨read, others⟩
  · rw [hread] at hreads
    rw [List.forall₂_nil_right_iff.1 hreads]
    exact .refused _
  · rw [hread] at hreads
    obtain ⟨b, bs, hb, hbs, hcons⟩ := List.forall₂_cons_right_iff.1 hreads
    rw [hcons]
    cases hbs with
    | nil =>
      obtain ⟨nodes, rfl, hnodes⟩ := hb
      change Agrees _ (if read.source = .excluded then _ else _)
        (if read.source = .excluded then _ else _)
      split
      · exact .refused _
      · refine .ok ⟨nodes, congrArg (CheckedCompiled.mk read.source · _ _ _) ?_, hnodes⟩
        refine (andThen_checked (applyAt_eq_ok f (hread ▸ List.mem_cons_self))).trans ?_
        simp only [Option.map_eq_bind, Function.comp_def]
    | cons hb' hbs =>
      change Agrees _ (refusing (refuse (.unsupportedArguments name
        (.readCount _ (Value.array written).compact)))) _
      rw [← hcons, hreads.length_eq]
      exact .refused _

end Pieces

/-! ## Queries -/

/-- Whether built fields are the entries compiled, with aligned nodes, and every destination is
within a tuple. -/
structure EntriesRunAs (built : List CheckedEntry × List CheckedNode)
    (compiled : List Entry × List Notice) : Prop where
  entries : built.1 = compiled.1.map Entry.checked
  nodes : ∀ node ∈ built.2, node.Aligned
  dests : ∀ entry ∈ compiled.1, entry.dest.tupleLength ≤ 65536

/-- Whether a built treatment of leftovers is the compiled one, with aligned nodes. -/
structure RemainingRunsAs (built : CheckedRemaining × List CheckedNode)
    (compiled : Remaining × List Notice) : Prop where
  remaining : built.1 = compiled.1.checked
  nodes : ∀ node ∈ built.2, node.Aligned

theorem tupleLength_le_of_checkDestination {raw : String} {dest : Key}
    (h : checkDestination raw dest = .ok ()) : dest.tupleLength ≤ 65536 := by
  cases dest with
  | name text => exact Nat.zero_le _
  | position n =>
    rw [checkDestination] at h
    split at h
    · exact absurd (located_eq_ok.1 h) refuse_ne_ok
    case isFalse hle =>
      have hlimit : maxTuplePosition.toInt = 65535 := by decide
      have hle := Int64.le_iff_toInt_le.1 (Int64.not_lt.1 hle)
      rw [Key.tupleLength]
      split <;> omega

theorem dest_toEntry (c : Compiled) (dest : Key) : (c.toEntry dest).dest = dest := by
  unfold Compiled.toEntry
  cases c.source <;> rfl

mutual

/-- A selector is built as it is compiled. -/
theorem Selector.agrees_build (r : Resolver) (s : Selector) :
    Agrees CheckedCompiled.RunsAs (s.build r) (s.compile r) := by
  match s with
  | .exclude | .copy | .sort _ =>
    rw [Selector.build, Selector.compile]
    exact .ok (runsAs_of_eq rfl)
  | .named name =>
    rw [Selector.build, Selector.compile]
    cases r.aggregation? name with
    | some aggregation => exact .ok (runsAs_of_eq rfl)
    | none =>
      cases r.function? name with
      | some f => exact .ok (runsAs_of_eq rfl)
      | none => exact .refused _
  | .pipeline p =>
    rw [Selector.build, Selector.compile]
    exact Pipeline.agrees_build r p
  | .fields f =>
    rw [Selector.build, Selector.compile]
    exact FieldSelector.agrees_build r f
termination_by s.weight
decreasing_by all_goals simp only [Selector.weight]; omega

theorem Pipeline.agrees_build (r : Resolver) (p : Pipeline) :
    Agrees CheckedCompiled.RunsAs (p.build r) (p.compile r) := by
  match p with
  | .identity | .access _ | .constant _ =>
    rw [Pipeline.build, Pipeline.compile]
    exact .ok (runsAs_of_eq rfl)
  | .nested f =>
    rw [Pipeline.build, Pipeline.compile]
    exact FieldSelector.agrees_build r f
  | .call name args =>
    rw [Pipeline.build, Pipeline.compile]
    cases r.function? name with
    | some f => exact (agrees_buildArguments r args).bind fun _ _ h => agrees_call f name args h
    | none =>
      cases r.aggregation? name with
      | none => exact .refused _
      | some aggregation =>
        dsimp only
        rw [compileRest_eq]
        split
        case h_1 e hparsed => exact hparsed ▸ .refused e
        case h_2 s hparsed =>
          have := Selector.weight_le_of_parseRest hparsed
          rw [hparsed]
          refine (Selector.agrees_build r s).bind ?_
          rintro _ rest ⟨nodes, rfl, hnodes⟩
          exact agrees_aggregated rest hnodes name aggregation
  | .chain head tail =>
    rw [Pipeline.build, Pipeline.compile]
    refine (Selector.agrees_build r head).bind ?_
    rintro _ head ⟨headNodes, rfl, hhead⟩
    change Agrees _ (if head.source = .excluded then _ else _) _
    split
    · exact .refused _
    · refine (Selector.agrees_build r tail).bind ?_
      rintro _ tail ⟨tailNodes, rfl, htail⟩
      change Agrees _ (if tail.source = .excluded then _ else _) _
      split
      · exact .refused _
      · exact agrees_chain head tail hhead htail
termination_by p.weight
decreasing_by all_goals simp only [Pipeline.weight]; omega

theorem agrees_buildArguments (r : Resolver) (args : List Value) :
    Agrees (List.Forall₂ CheckedArgument.RunsAs) (buildArguments r args)
      (compileArguments r args) := by
  match args with
  | [] =>
    rw [buildArguments, compileArguments]
    exact .ok .nil
  | arg :: args =>
    have hrest := agrees_buildArguments r args
    rw [buildArguments, compileArguments_cons]
    split
    case h_1 hreads =>
      rw [hreads]
      exact hrest.bind fun _ _ h => .ok (.cons (.constant _) h)
    case h_2 elements hreads =>
      rw [hreads]
      dsimp only
      split
      case h_1 e hparsed => exact hparsed ▸ .refused e
      case h_2 p hparsed =>
        have := Pipeline.weight_le_of_parse _ hparsed
        rw [hparsed]
        refine (Pipeline.agrees_build r p).bind ?_
        rintro _ read ⟨nodes, rfl, hnodes⟩
        rw [withoutDirectives_checked]
        exact (Agrees.refusing _).bind fun _ _ _ => hrest.bind fun _ _ h =>
          .ok (.cons (.read ⟨nodes, rfl, hnodes⟩) h)
termination_by 2 + itemsWeight args
decreasing_by
  · simp only [itemsWeight]
    omega
  · have := Value.itemsWeight_le_of_readElements? ‹arg.readElements? = some _›
    simp only [itemsWeight]
    omega

theorem FieldSelector.agrees_build (r : Resolver) (f : FieldSelector) :
    Agrees CheckedCompiled.RunsAs (f.build r) (f.compile r) := by
  match f with
  | .mk fields remaining filter =>
    rw [FieldSelector.build, FieldSelector.compile]
    refine (agrees_buildEntries r fields).bind ?_
    rintro ⟨_, fieldNodes⟩ ⟨entries, notices⟩ ⟨rfl, hfieldNodes, hdests⟩
    refine (agrees_buildRemaining r remaining).bind ?_
    rintro ⟨_, remainingNodes⟩ ⟨remaining, _⟩ ⟨rfl, hremainingNodes⟩
    refine (Agrees.refusing (compileFilter r filter)).bind ?_
    rintro test _ rfl
    have hnode := CheckedNode.build_eq_ok entries remaining test
    have haligned := Node.aligned_plan hdests remaining test
    dsimp only
    rw [hnode]
    refine .ok ⟨_, congrArg (CheckedCompiled.mk .same · none none _) ?_, ?_⟩
    · exact andThen_checked (Node.apply_checked (Node.planned_plan entries remaining test))
    · simp only [List.forall_mem_append, List.forall_mem_singleton]
      exact ⟨⟨hfieldNodes, hremainingNodes⟩, haligned⟩
termination_by f.weight
decreasing_by all_goals simp only [FieldSelector.weight]; omega

theorem agrees_buildEntries (r : Resolver) (fields : List (String × Selector)) :
    Agrees EntriesRunAs (buildEntries r fields) (compileEntries r fields) := by
  match fields with
  | [] =>
    rw [buildEntries, compileEntries]
    exact .ok ⟨rfl, List.forall_mem_nil _, List.forall_mem_nil _⟩
  | (raw, s) :: fields =>
    rw [buildEntries, compileEntries]
    cases hcheck : checkDestination raw (r.key raw) with
    | error e => exact .refused e
    | ok _ =>
      refine ((Selector.agrees_build r s).located raw).bind ?_
      rintro _ c ⟨nodes, rfl, hnodes⟩
      refine (agrees_buildEntries r fields).bind ?_
      rintro ⟨_, restNodes⟩ ⟨entries, _⟩ ⟨rfl, hrestNodes, hdests⟩
      refine .ok ⟨congrArg (· :: _) (toEntry_checked c nodes (r.key raw)), ?_, ?_⟩
      · exact List.forall_mem_append.2 ⟨hnodes, hrestNodes⟩
      · refine List.forall_mem_cons.2 ⟨?_, hdests⟩
        rw [dest_toEntry]
        exact tupleLength_le_of_checkDestination hcheck
termination_by entriesWeight fields
decreasing_by all_goals simp only [entriesWeight]; omega

theorem agrees_buildRemaining (r : Resolver) (remaining : Option Selector) :
    Agrees RemainingRunsAs (buildRemaining r remaining) (compileRemaining r remaining) := by
  match remaining with
  | none =>
    rw [buildRemaining, compileRemaining]
    exact .ok ⟨rfl, List.forall_mem_nil _⟩
  | some s =>
    rw [buildRemaining, compileRemaining]
    refine ((Selector.agrees_build r s).located _).bind ?_
    rintro _ c ⟨nodes, rfl, hnodes⟩
    refine ((agrees_toRemaining c nodes).located _).bind ?_
    rintro _ remaining rfl
    exact .ok ⟨rfl, hnodes⟩
termination_by remainingWeight remaining
decreasing_by all_goals simp only [remainingWeight]; omega

end

/-- Whether a built query runs as a compiled one, on every input without an index out of range, and
all of its nodes are aligned. -/
structure CheckedQuery.RunsAs (built : CheckedQuery) (q : Query) : Prop where
  apply : ∀ input, built.apply input = .ok (q.apply input)
  nodes : ∀ node ∈ built.nodes, node.Aligned

theorem CheckedQuery.agrees_build (r : Resolver) (v : Value) :
    Agrees CheckedQuery.RunsAs (build r v) (Query.compile r v) := by
  refine (Agrees.refusing (Selector.parse v)).bind ?_
  rintro s _ rfl
  refine (Selector.agrees_build r s).bind ?_
  rintro _ c ⟨nodes, rfl, hnodes⟩
  rw [withoutDirectives_checked]
  refine (Agrees.refusing (c.withoutDirectives .topLevel)).bind fun _ _ _ => .ok ⟨?_, hnodes⟩
  intro input
  have hsource : (c.checked nodes).source = c.source := rfl
  simp only [apply, Query.apply, hsource]
  cases c.source <;> rfl

/-- A query that compiles is built without an index out of range, runs without one on every input,
with the output of the compiled query, and all of its nodes are aligned. -/
theorem Query.runs_within_range (r : Resolver) (v : Value) (q : Query)
    (h : Query.compile r v = .ok q) :
    ∃ built, CheckedQuery.build r v = .ok built ∧
      (∀ input, built.apply input = .ok (q.apply input)) ∧
      ∀ node ∈ built.nodes, node.Aligned := by
  have hbuilt := CheckedQuery.agrees_build r v
  rw [h] at hbuilt
  obtain ⟨built, hok, hruns⟩ := hbuilt.exists_ok
  exact ⟨built, hok, hruns.apply, hruns.nodes⟩

/-- Two dogs by weight, each as a tuple of an empty place, the name and its length, and the weight
behind it. The weight is selected by a chain, which has a node of its own. An animal without a name
is left out, by an operator that the application adds. -/
theorem Query.dogs_by_weight :
    let present : Operator := .custom fun
      | .equals (.bool b) => .ok fun v => v.isSome == b
      | _ => refuse (.invalidOperand "present" (.custom "expected a boolean"))
    let r := Scope.resolver [NameTable.empty.withOperator "present" present, .builtins]
    let written := Value.object [("1", .array [.string "name"]),
      ("2", .array [.string "length", .array [.string "name"]]),
      ("-1", .array [.array [.string "kg"], .int 1]),
      ("?", .object [("name", .object [("present", .bool true)])])]
    let dog (name : String) (kg : Int64) := Value.object [("name", .string name), ("kg", .int kg)]
    let tuple (name : String) (length kg : Int64) :=
      Value.array [.null, .string name, .int length, .int kg]
    ∃ q built, Query.compile r written = .ok q ∧
      CheckedQuery.build r written = .ok built ∧
      built.apply (.array [dog "Luna" 30, .object [("kg", .int 2)], dog "Bob" 4]) =
        .ok (some (.array [tuple "Bob" 3 4, tuple "Luna" 4 30])) ∧
      ∀ node ∈ built.nodes, node.Aligned := by
  intro present r written dog tuple
  let size := Pipeline.call "length" [.array [.string "name"]]
  let weight := Pipeline.chain (.pipeline (.access (.name "kg"))) (.sort 1)
  let fields := [("1", Selector.pipeline (.access (.name "name"))), ("2", .pipeline size),
    ("-1", .pipeline weight)]
  let named := Predicate.all [("name", .all [("present", .equals (.bool true))])]
  let isPresent : Test := fun v => v.isSome == true
  let test : Test := fun v => [Test.ofPart (fun v => [isPresent].all (· v)) "name"].all (· v)
  let length : Mapper := fun v => v.map fun v => Transform.length.apply ([Value.null].set 0 v)
  let chained := Compiled.chain (.reading (.key (.name "kg")))
    { Compiled.reading .same with sort := some 1 }
  let entries : List Entry := [.field ⟨.position 1, .name "name", id, none, none⟩,
    .field ⟨.position 2, .name "name", length, none, none⟩, chained.toEntry (.position (-1))]
  have hparse : Selector.parse written = .ok (.fields (.mk fields none (some named))) := rfl
  have hargument := compileArguments_name (r := r) "name"
  have hone : r.key "1" = .position 1 := by decide
  have htwo : r.key "2" = .position 2 := by decide
  have hlast : r.key "-1" = .position (-1) := by decide
  have hlength : r.function? "length" = some .length := rfl
  have hfirst : ¬maxTuplePosition < 1 := by decide
  have hsecond : ¬maxTuplePosition < 2 := by decide
  have hbehind : ¬maxTuplePosition < -1 := by decide
  have hentries : compileEntries r fields = .ok (entries, chained.notices) := by
    simp [fields, size, weight, entries, length, chained, compileEntries, Selector.compile,
      Pipeline.compile, hone, htwo, hlast, hlength, hargument, located, checkDestination,
      hfirst, hsecond, hbehind, Compiled.toEntry, Compiled.reading, Compiled.chain, Transform.call,
      Argument.read?, Argument.template, bind, Except.bind, pure, Except.pure]
  have hfilter : compileFilter r (some named) = .ok (some test) := rfl
  have hcompile : Query.compile r written =
      .ok ⟨.same, fun v => v.bind (Node.plan entries .unspecified (some test)).apply,
        chained.notices ++ Node.planNotices entries⟩ := by
    simp [Query.compile, hparse, Selector.compile, FieldSelector.compile, hentries,
      compileRemaining, hfilter, Compiled.reading, Compiled.withoutDirectives, bind,
      Except.bind, pure, Except.pure]
  obtain ⟨built, hbuilt, happly, hnodes⟩ := runs_within_range _ _ _ hcompile
  refine ⟨_, built, hcompile, hbuilt, (happly _).trans (congrArg Except.ok ?_), hnodes⟩
  decide +kernel

end Reshape
