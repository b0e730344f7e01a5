import Reshape.Proofs.Compile.Directives
import Reshape.Proofs.Compile.Range

/-!
# Calls of functions

What the call of a function compiles to, in terms of what its arguments say (`Value.argumentForm`).
One of them is to read the input. What it reads goes to the place of this very argument, and all
others stay where they are written (`Pipeline.compile_call_eq`, `Pipeline.call_injects_read`).

An argument that reads is a pipeline of at most one element, and such a pipeline never brings a
directive or an exclusion. So of all checks of a call only the number of reads can fail, after every
read has been compiled, in written order.
-/

namespace Reshape

/-- What an argument of a call says. -/
inductive ArgumentForm where
  | constant (v : Value)
  /-- Reads the input as a pipeline with these elements does. -/
  | read (elements : List Value)

/-- `[[v]]` says the constant `v`. An array of two or more elements is a constant itself, and so is
all that is no array. Every other array reads. -/
def Value.argumentForm : Value → ArgumentForm
  | .array [.array [constant]] => .constant constant
  | .array [] => .read []
  | .array [element] => .read [element]
  | v => .constant v

namespace ArgumentForm

def elements? : ArgumentForm → Option (List Value)
  | .constant _ => none
  | .read elements => some elements

/-- The value that an argument hands over when `x` is what was read. -/
def filled (x : Value) : ArgumentForm → Value
  | .constant v => v
  | .read _ => x

end ArgumentForm

/-- The reads among some arguments. -/
def readsOf (args : List Value) : List (List Value) := args.filterMap (·.argumentForm.elements?)

/-- The values that some arguments hand over, in written order, when `x` is what was read. -/
def filledWith (x : Value) (args : List Value) : List Value := args.map (·.argumentForm.filled x)

section Arguments

variable {arg : Value} {args elements : List Value}

theorem readsOf_cons_read (h : arg.argumentForm = .read elements) :
    readsOf (arg :: args) = elements :: readsOf args :=
  List.filterMap_cons_some (by rw [h]; rfl)

theorem readsOf_cons_constant {v : Value} (h : arg.argumentForm = .constant v) :
    readsOf (arg :: args) = readsOf args :=
  List.filterMap_cons_none (by rw [h]; rfl)

end Arguments

/-- The place of the first argument that reads. -/
def readSlot (args : List Value) : Nat := args.findIdx (·.argumentForm.elements?.isSome)

/-! ## Traversals -/

section Traversals

variable {α β ε : Type} {f : α → Except ε β}

/-- A traversal gives results when every step gives one. -/
theorem mapM_eq_ok_iff {xs : List α} {ys : List β} :
    xs.mapM f = .ok ys ↔ List.Forall₂ (fun x y => f x = .ok y) xs ys := by
  induction xs generalizing ys with
  | nil =>
    rw [List.mapM_nil, List.forall₂_nil_left_iff]
    exact ⟨fun h => (Except.ok.inj h).symm, fun h => congrArg Except.ok h.symm⟩
  | cons x xs ih =>
    rw [List.mapM_cons, List.forall₂_cons_left_iff]
    constructor
    · intro h
      cases hx : f x with
      | error e =>
        rw [hx] at h
        cases h
      | ok y =>
        cases hxs : xs.mapM f with
        | error e =>
          rw [hx, hxs] at h
          cases h
        | ok rest =>
          rw [hx, hxs] at h
          exact ⟨y, rest, rfl, ih.1 hxs, (Except.ok.inj h).symm⟩
    · rintro ⟨y, rest, hx, hrest, rfl⟩
      rw [hx, ih.2 hrest]
      rfl

theorem mapM_eq_singleton_iff {xs : List α} {y : β} :
    xs.mapM f = .ok [y] ↔ ∃ x, xs = [x] ∧ f x = .ok y := by
  rw [mapM_eq_ok_iff, List.forall₂_cons_right_iff]
  constructor
  · rintro ⟨x, rest, hx, hrest, rfl⟩
    rw [List.forall₂_nil_right_iff.1 hrest]
    exact ⟨x, rfl, hx⟩
  · rintro ⟨x, rfl, hx⟩
    exact ⟨x, [], hx, .nil, rfl⟩

/-- A traversal fails with what its first failing step fails with. -/
theorem mapM_eq_error_iff {xs : List α} {e : ε} :
    xs.mapM f = .error e ↔ ∃ before x after, xs = before ++ x :: after ∧
      (∀ b ∈ before, ∃ y, f b = .ok y) ∧ f x = .error e := by
  induction xs with
  | nil =>
    refine iff_of_false ?_ ?_
    · rintro ⟨⟩
    · rintro ⟨before, x, after, h, -, -⟩
      exact List.append_ne_nil_of_right_ne_nil before (List.cons_ne_nil x after) h.symm
  | cons x xs ih =>
    rw [List.mapM_cons]
    constructor
    · intro h
      cases hx : f x with
      | error e' =>
        rw [hx] at h
        cases h
        exact ⟨[], x, xs, rfl, List.forall_mem_nil _, hx⟩
      | ok y =>
        cases hxs : xs.mapM f with
        | error e' =>
          rw [hx, hxs] at h
          cases h
          obtain ⟨before, failing, after, hsplit, hbefore, hfailing⟩ := ih.1 hxs
          exact ⟨x :: before, failing, after, congrArg (x :: ·) hsplit,
            List.forall_mem_cons.2 ⟨⟨y, hx⟩, hbefore⟩, hfailing⟩
        | ok rest =>
          rw [hx, hxs] at h
          cases h
    · rintro ⟨before, failing, after, hsplit, hbefore, hfailing⟩
      cases before with
      | nil =>
        cases hsplit
        rw [hfailing]
        rfl
      | cons b before =>
        cases hsplit
        obtain ⟨⟨y, hb⟩, hbefore⟩ := List.forall_mem_cons.1 hbefore
        rw [hb, ih.2 ⟨before, failing, after, rfl, hbefore, hfailing⟩]
        rfl

end Traversals

variable {r : Resolver}

/-- Parses and compiles the elements of a pipeline. -/
def Pipeline.compileElements (r : Resolver) (elements : List Value) :
    Except CompileError Compiled :=
  Pipeline.parse elements >>= Pipeline.compile r

/-! ## Arguments -/

/-- An argument is compiled as what it says. -/
theorem Value.argumentForm_cases (arg : Value) :
    (∃ elements, arg.argumentForm = .read elements ∧ arg.readElements? = some elements ∧
      elements.length ≤ 1) ∨
    ∃ v, arg.argumentForm = .constant v ∧ arg.readElements? = none ∧ arg.quoted?.getD arg = v := by
  cases arg with
  | array elements =>
    rcases elements with _ | ⟨first, _ | ⟨second, rest⟩⟩
    · exact .inl ⟨[], rfl, rfl, Nat.zero_le _⟩
    · cases first with
      | array inner =>
        rcases inner with _ | ⟨constant, _ | ⟨_, _⟩⟩
        · exact .inl ⟨_, rfl, rfl, Nat.le_refl _⟩
        · exact .inr ⟨constant, rfl, rfl, rfl⟩
        · exact .inl ⟨_, rfl, rfl, Nat.le_refl _⟩
      | _ => exact .inl ⟨_, rfl, rfl, Nat.le_refl _⟩
    · refine .inr ⟨.array (first :: second :: rest), ?_, ?_, ?_⟩ <;>
        simp [argumentForm, readElements?, quoted?]
  | _ => exact .inr ⟨_, rfl, rfl, rfl⟩

theorem FieldSelector.source_of_compile {f : FieldSelector} {c : Compiled}
    (h : f.compile r = .ok c) : c.source = .same := by
  obtain ⟨fields, remaining, filter⟩ := f
  rw [FieldSelector.compile] at h
  obtain ⟨entries, -, h⟩ := bind_eq_ok.1 h
  obtain ⟨remaining, -, h⟩ := bind_eq_ok.1 h
  obtain ⟨test, -, h⟩ := bind_eq_ok.1 h
  cases h
  rfl

/-- A pipeline of at most one element brings no directive, and it reads something. -/
theorem Pipeline.plain_of_compileElements {elements : List Value} (hlength : elements.length ≤ 1)
    {read : Compiled} (hread : compileElements r elements = .ok read) :
    read.withoutDirectives .argument = .ok () ∧ read.source ≠ .excluded := by
  obtain ⟨p, hparse, hcompile⟩ := bind_eq_ok.1 hread
  have hplain : (read.aggregation = none ∧ read.sort = none) ∧ read.source ≠ .excluded := by
    rcases elements with _ | ⟨element, _ | ⟨_, _⟩⟩
    · cases hparse
      rw [Pipeline.compile] at hcompile
      cases hcompile
      exact ⟨⟨rfl, rfl⟩, ReadFrom.noConfusion⟩
    · rw [Pipeline.parse] at hparse
      unfold Pipeline.parseAccessor at hparse
      split at hparse
      case h_4 => exact absurd hparse refuse_ne_ok
      case h_6 => exact absurd hparse refuse_ne_ok
      case h_5 fields =>
        obtain ⟨f, -, rfl⟩ := map_eq_ok.1 hparse
        rw [Pipeline.compile] at hcompile
        rw [FieldSelector.source_of_compile hcompile]
        exact ⟨FieldSelector.directives_of_compile hcompile, ReadFrom.noConfusion⟩
      all_goals
        cases hparse
        rw [Pipeline.compile] at hcompile
        cases hcompile
        exact ⟨⟨rfl, rfl⟩, ReadFrom.noConfusion⟩
    · exact absurd hlength (by simp)
  refine ⟨?_, hplain.2⟩
  rw [Compiled.withoutDirectives, hplain.1.1, hplain.1.2]

/-- The reads among compiled arguments are the reads among the arguments, compiled in written order,
and the first of them that fails fails the arguments. -/
theorem reads_compileArguments (args : List Value) :
    List.filterMap Argument.read? <$> compileArguments r args =
      (readsOf args).mapM (Pipeline.compileElements r) := by
  induction args with
  | nil =>
    rw [compileArguments]
    rfl
  | cons arg args ih =>
    rw [compileArguments_cons]
    obtain ⟨elements, hform, hreads, hlength⟩ | ⟨v, hform, hreads, hv⟩ := arg.argumentForm_cases
    · simp only [hreads]
      rw [readsOf_cons_read hform, List.mapM_cons, ← ih]
      cases hparse : Pipeline.parse elements with
      | error e =>
        rw [Pipeline.compileElements, hparse]
        rfl
      | ok p =>
        cases hcompile : p.compile r with
        | error e =>
          simp only [Pipeline.compileElements, hparse, bind, Except.bind, hcompile]
          rfl
        | ok read =>
          have hread : Pipeline.compileElements r elements = .ok read :=
            bind_eq_ok.2 ⟨p, hparse, hcompile⟩
          have hplain := (Pipeline.plain_of_compileElements hlength hread).1
          simp only [hread, bind, Except.bind, hcompile, hplain]
          cases compileArguments r args <;> rfl
    · simp only [hreads]
      rw [readsOf_cons_constant hform, ← ih]
      cases compileArguments r args <;> rfl

/-- Compiled constants stand where they are written, and a place is kept where an argument reads. -/
theorem template_of_compileArguments {args : List Value} {compiled : List Argument}
    (h : compileArguments r args = .ok compiled) :
    compiled.map Argument.template = filledWith .null args ∧
      compiled.map (·.read?.isSome) = args.map (·.argumentForm.elements?.isSome) := by
  induction args generalizing compiled with
  | nil =>
    rw [compileArguments] at h
    cases h
    exact ⟨rfl, rfl⟩
  | cons arg args ih =>
    rw [compileArguments_cons] at h
    obtain ⟨elements, hform, hreads, -⟩ | ⟨v, hform, hreads, hv⟩ := arg.argumentForm_cases
    · simp only [hreads] at h
      obtain ⟨p, -, h⟩ := bind_eq_ok.1 h
      obtain ⟨read, -, h⟩ := bind_eq_ok.1 h
      obtain ⟨_, -, h⟩ := bind_eq_ok.1 h
      obtain ⟨rest, hrest, h⟩ := bind_eq_ok.1 h
      cases h
      obtain ⟨htemplate, hread⟩ := ih hrest
      rw [filledWith, List.map_cons, List.map_cons, List.map_cons, List.map_cons, htemplate, hread,
        hform]
      exact ⟨rfl, rfl⟩
    · simp only [hreads] at h
      obtain ⟨rest, hrest, h⟩ := bind_eq_ok.1 h
      cases h
      obtain ⟨htemplate, hread⟩ := ih hrest
      rw [filledWith, List.map_cons, List.map_cons, List.map_cons, List.map_cons, htemplate, hread,
        hform, hv]
      exact ⟨rfl, rfl⟩

/-- The place kept for the only read is the place of the argument that reads. -/
theorem findIdx_of_compileArguments {args : List Value} {compiled : List Argument}
    (h : compileArguments r args = .ok compiled) :
    compiled.findIdx (·.read?.isSome) = readSlot args := by
  have hfound := congrArg (List.findIdx id) (template_of_compileArguments h).2
  rwa [List.findIdx_map, List.findIdx_map] at hfound

theorem readSlot_lt_length {args elements : List Value} (h : elements ∈ readsOf args) :
    readSlot args < args.length := by
  obtain ⟨arg, harg, hread⟩ := List.mem_filterMap.1 h
  exact List.findIdx_lt_length_of_exists ⟨arg, harg, by rw [hread]; rfl⟩

/-- What is put at the place of the only read fills the arguments. -/
theorem set_readSlot {args : List Value} {elements : List Value} (h : readsOf args = [elements])
    (x y : Value) : (filledWith y args).set (readSlot args) x = filledWith x args := by
  induction args with
  | nil => cases h
  | cons arg args ih =>
    cases hform : arg.argumentForm with
    | read _ =>
      -- No other argument reads, so the others are filled alike with anything.
      rw [readsOf_cons_read hform] at h
      have hnone : readsOf args = [] := (List.cons.inj h).2
      have hsame : filledWith y args = filledWith x args := by
        refine List.map_congr_left fun other hother => ?_
        have hconstant := List.filterMap_eq_nil_iff.1 hnone other hother
        cases hother : other.argumentForm with
        | constant v => rfl
        | read _ => rw [hother] at hconstant; cases hconstant
      have hslot : readSlot (arg :: args) = 0 := by
        simp [readSlot, List.findIdx_cons, hform, ArgumentForm.elements?]
      rw [hslot, filledWith, filledWith, List.map_cons, List.map_cons, List.set_cons_zero, hform]
      exact congrArg (x :: ·) hsame
    | constant v =>
      rw [readsOf_cons_constant hform] at h
      have hslot : readSlot (arg :: args) = readSlot args + 1 := by
        simp [readSlot, List.findIdx_cons, hform, ArgumentForm.elements?]
      rw [hslot, filledWith, filledWith, List.map_cons, List.map_cons, List.set_cons_succ, hform]
      exact congrArg (v :: ·) (ih h)

/-! ## Calls -/

/-- The call of a function with arguments of which one is `read`: reads what this one does, and
hands over what was read among the constants. -/
def Transform.callReading (f : Transform) (args : List Value) (read : Compiled) : Compiled where
  source := read.source
  mapper := fun v => (read.mapper v).map fun x => f.apply (filledWith x args)
  aggregation := none
  sort := none
  notices := read.notices

/-- The call of a function once the reads among its arguments are compiled; there has to be exactly
one. -/
def Transform.callReads (f : Transform) (name : String) (args : List Value)
    (reads : List Compiled) : Except CompileError Compiled :=
  match reads with
  | [read] => .ok (f.callReading args read)
  | reads =>
    refuse (.unsupportedArguments name (.readCount reads.length (Value.array args).compact))

theorem Transform.callReads_eq_ok {f : Transform} {name : String} {args : List Value}
    {reads : List Compiled} {c : Compiled} :
    f.callReads name args reads = .ok c ↔ ∃ read, reads = [read] ∧ f.callReading args read = c := by
  rcases reads with _ | ⟨read, _ | ⟨_, _⟩⟩ <;> simp [callReads, refuse]

theorem Transform.callReads_of_length_ne_one (f : Transform) (name : String) (args : List Value)
    {reads : List Compiled} (h : reads.length ≠ 1) : f.callReads name args reads =
      refuse (.unsupportedArguments name (.readCount reads.length (Value.array args).compact)) := by
  rcases reads with _ | ⟨read, _ | ⟨_, _⟩⟩
  · rfl
  · exact absurd rfl h
  · rfl

theorem length_le_one_of_mem_readsOf {args elements : List Value} (h : elements ∈ readsOf args) :
    elements.length ≤ 1 := by
  obtain ⟨arg, -, helements⟩ := List.mem_filterMap.1 h
  obtain ⟨_, hform, -, hlength⟩ | ⟨_, hform, -⟩ := arg.argumentForm_cases
  · rw [hform] at helements
    cases helements
    exact hlength
  · rw [hform] at helements
    cases helements

variable {name : String} {f : Transform} {args : List Value}

/-- A call compiles its reads in written order, and then they are counted. -/
theorem Pipeline.compile_call_eq (hf : r.function? name = some f) :
    (Pipeline.call name args).compile r =
      (readsOf args).mapM (compileElements r) >>= f.callReads name args := by
  have hreads := reads_compileArguments (r := r) args
  rw [Pipeline.compile, ← hreads]
  simp only [hf]
  cases hcompiled : compileArguments r args with
  | error e => rfl
  | ok compiled =>
    rw [hcompiled] at hreads
    change f.call name args compiled = f.callReads name args (compiled.filterMap Argument.read?)
    rw [Transform.call.eq_def]
    rcases hread : compiled.filterMap Argument.read? with _ | ⟨read, _ | ⟨_, _⟩⟩
    · rfl
    · have hmapM : (readsOf args).mapM (compileElements r) = .ok [read] :=
        hreads.symm.trans (congrArg Except.ok hread)
      obtain ⟨elements, hone, hcompile⟩ := mapM_eq_singleton_iff.1 hmapM
      have hlength := length_le_one_of_mem_readsOf (hone ▸ List.mem_singleton_self elements)
      simp only [if_neg (plain_of_compileElements hlength hcompile).2,
        (template_of_compileArguments hcompiled).1, findIdx_of_compileArguments hcompiled,
        set_readSlot hone]
      rfl
    · rfl

/-- Why the call of a function is refused, and with which error. -/
inductive CallRefusal (r : Resolver) (name : String) (args : List Value) : CompileError → Prop where
  /-- The first read, in written order, that fails to parse or to compile. -/
  | read {before elements after e} (split : readsOf args = before ++ elements :: after)
    (earlier : ∀ others ∈ before, ∃ c, Pipeline.compileElements r others = .ok c)
    (fails : Pipeline.compileElements r elements = .error e) : CallRefusal r name args e
  /-- All reads compile, but their number is not one. -/
  | count (compiled : ∀ elements ∈ readsOf args, ∃ c, Pipeline.compileElements r elements = .ok c)
    (number : (readsOf args).length ≠ 1) :
    CallRefusal r name args (.of (.unsupportedArguments name
      (.readCount (readsOf args).length (Value.array args).compact)))

theorem Pipeline.compile_call_eq_error_iff (hf : r.function? name = some f) {e : CompileError} :
    (Pipeline.call name args).compile r = .error e ↔ CallRefusal r name args e := by
  rw [compile_call_eq hf]
  constructor
  · intro h
    cases hreads : (readsOf args).mapM (compileElements r) with
    | error e' =>
      rw [hreads] at h
      cases h
      obtain ⟨before, elements, after, hsplit, hearlier, hfails⟩ := mapM_eq_error_iff.1 hreads
      exact .read hsplit hearlier hfails
    | ok reads =>
      have hpaired := mapM_eq_ok_iff.1 hreads
      have hrefused : f.callReads name args reads = .error e := by rwa [hreads] at h
      have hnumber : reads.length ≠ 1 := by
        intro hone
        obtain ⟨read, rfl⟩ := List.length_eq_one_iff.1 hone
        cases hrefused
      rw [f.callReads_of_length_ne_one name args hnumber, ← hpaired.length_eq] at hrefused
      cases hrefused
      exact .count (exists_forall₂_iff.1 ⟨reads, hpaired⟩) (hpaired.length_eq ▸ hnumber)
  · intro h
    cases h with
    | read hsplit hearlier hfails =>
      rw [mapM_eq_error_iff.2 ⟨_, _, _, hsplit, hearlier, hfails⟩]
      rfl
    | count hcompiled hnumber =>
      obtain ⟨reads, hpaired⟩ := exists_forall₂_iff.2 hcompiled
      rw [hpaired.length_eq] at hnumber ⊢
      rw [mapM_eq_ok_iff.2 hpaired]
      exact f.callReads_of_length_ne_one name args hnumber

theorem Pipeline.compile_call_eq_ok_iff (hf : r.function? name = some f) {c : Compiled} :
    (Pipeline.call name args).compile r = .ok c ↔ ∃ elements read, readsOf args = [elements] ∧
      compileElements r elements = .ok read ∧ f.callReading args read = c := by
  rw [compile_call_eq hf, bind_eq_ok]
  constructor
  · rintro ⟨reads, hreads, hcall⟩
    obtain ⟨read, rfl, hreading⟩ := Transform.callReads_eq_ok.1 hcall
    obtain ⟨elements, hone, hread⟩ := mapM_eq_singleton_iff.1 hreads
    exact ⟨elements, read, hone, hread, hreading⟩
  · rintro ⟨elements, read, hone, hread, hcall⟩
    exact ⟨[read], mapM_eq_singleton_iff.2 ⟨elements, hone, hread⟩, congrArg Except.ok hcall⟩

/-- With what was read put at its place in range, all arguments are handed over. A single argument
is not put anywhere and handed over as it is, which is the same. -/
theorem Transform.applyAt_readSlot (f : Transform) {elements : List Value}
    (h : readsOf args = [elements]) (x : Value) :
    f.applyAt (filledWith .null args) (readSlot args) x =
      .ok (some (f.apply (filledWith x args))) := by
  have hslot : readSlot args < (filledWith .null args).length := by
    rw [filledWith, List.length_map]
    exact readSlot_lt_length (h ▸ List.mem_singleton_self elements)
  rw [applyAt, ← set_readSlot h x .null]
  split
  case isTrue hone =>
    obtain ⟨v, htemplate⟩ := List.length_eq_one_iff.1 hone
    have hfirst : readSlot args = 0 := by omega
    rw [htemplate, hfirst]
    rfl
  case isFalse =>
    rw [store_eq_ok hslot]
    rfl

/-- What a compiled call does: it reads where its read does and brings no directive. It is absent
when its read is, and else what the function makes of the arguments with what was read in the place
of the argument that reads. -/
structure Compiled.HandsOver (c : Compiled) (f : Transform) (args : List Value) (read : Compiled) :
    Prop where
  aggregation : c.aggregation = none
  sort : c.sort = none
  source : c.source = read.source
  absent : ∀ v, c.mapper v = none ↔ read.mapper v = none
  present : ∀ v x, read.mapper v = some x → c.mapper v = some (f.apply (filledWith x args))

theorem Transform.handsOver_callReading (f : Transform) (args : List Value) (read : Compiled) :
    (f.callReading args read).HandsOver f args read where
  aggregation := rfl
  sort := rfl
  source := rfl
  absent := fun _ => Option.map_eq_none_iff
  present := fun _ _ h => Option.map_eq_some_iff.2 ⟨_, h, rfl⟩

/-- A call of a function compiles exactly when one argument reads and its pipeline parses and
compiles. Then it hands over what was read in the place of this argument, and the way for a single
argument does the same. Otherwise it is refused for the first read that fails, or else for the
number of reads (`CallRefusal`): no read is ever refused for a directive or an exclusion. -/
theorem Pipeline.call_injects_read (hf : r.function? name = some f) (args : List Value) :
    ((∃ c, (Pipeline.call name args).compile r = .ok c) ↔
      ∃ elements read, readsOf args = [elements] ∧ compileElements r elements = .ok read) ∧
    (∀ elements read, readsOf args = [elements] → compileElements r elements = .ok read →
      ∃ c, (Pipeline.call name args).compile r = .ok c ∧ c.HandsOver f args read ∧
        ∀ x, f.applyAt (filledWith .null args) (readSlot args) x =
          .ok (some (f.apply (filledWith x args)))) ∧
    (∀ e, (Pipeline.call name args).compile r = .error e ↔ CallRefusal r name args e) ∧
    ∀ elements ∈ readsOf args, ∀ read, compileElements r elements = .ok read →
      read.withoutDirectives .argument = .ok () ∧ read.source ≠ .excluded := by
  refine ⟨?_, ?_, fun e => compile_call_eq_error_iff hf, ?_⟩
  · constructor
    · rintro ⟨c, hc⟩
      obtain ⟨elements, read, hone, hread, -⟩ := (compile_call_eq_ok_iff hf).1 hc
      exact ⟨elements, read, hone, hread⟩
    · rintro ⟨elements, read, hone, hread⟩
      exact ⟨_, (compile_call_eq_ok_iff hf).2 ⟨elements, read, hone, hread, rfl⟩⟩
  · intro elements read hone hread
    exact ⟨f.callReading args read,
      (compile_call_eq_ok_iff hf).2 ⟨elements, read, hone, hread, rfl⟩,
      f.handsOver_callReading args read, f.applyAt_readSlot hone⟩
  · intro elements helements read hread
    exact plain_of_compileElements (length_le_one_of_mem_readsOf helements) hread

/-- Among constants of every form a name is read in its place. With two reads the call is refused.
-/
theorem Pipeline.concat_injects_read :
    let name : Value := .array [.string "name"]
    let args : List Value :=
      [.string "<", .array [.array [.int 1]], name, .array [.int 2, .int 3]]
    (∃ c, (Pipeline.call "concat" args).compile .standard = .ok c ∧
      c.source = .key (.name "name") ∧
      c.mapper (some (.string "Luna")) = some (.string "<1Luna[2,3]") ∧ c.mapper none = none) ∧
    (Pipeline.call "concat" [name, name]).compile .standard =
      .error (.of (.unsupportedArguments "concat" (.readCount 2 "[[\"name\"],[\"name\"]]"))) := by
  intro name args
  have hconcat : Resolver.standard.function? "concat" = some .concat := rfl
  have hread :
      compileElements .standard [.string "name"] = .ok (.reading (.key (.name "name"))) := by
    rw [compileElements, parse_name]
    exact Pipeline.compile.eq_def _ _
  obtain ⟨-, hone, -, -⟩ := Pipeline.call_injects_read hconcat args
  obtain ⟨c, hc, hhands, -⟩ := hone _ _ rfl hread
  obtain ⟨-, -, hrefused, -⟩ := Pipeline.call_injects_read hconcat [name, name]
  refine ⟨⟨c, hc, hhands.source, ?_, (hhands.absent none).2 rfl⟩, ?_⟩
  · rw [hhands.present _ _ rfl]
    decide +kernel
  · refine (hrefused _).2 (.count ?_ (by decide))
    exact List.forall_mem_cons.2 ⟨⟨_, hread⟩, List.forall_mem_singleton.2 ⟨_, hread⟩⟩

end Reshape
