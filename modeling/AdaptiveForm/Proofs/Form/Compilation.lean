import AdaptiveForm.Form.Transform
import AdaptiveForm.Proofs.Form.Forest
import AdaptiveForm.Proofs.Rule.Opening

/-!
# Compiling the formulas of a form

`Field.compiled` is what compiling makes of one field, and `Field.failure?` what is reported of it.
`compileAll` does this to every field of the queue and to nothing else: its tree is the tree before,
with the queued fields compiled, `rewritten_compileAll`.  The order of the queue and repetitions in
it do not matter for that, because all formulas are compiled against the tree as it was.

A second run finds the same paths, as paths are made of names only, and no other formulas than those
that failed, as no compiled rule begins with `=`.
-/

namespace AdaptiveForm

open Rule (RowPaths NotFormula)

/-! ### One field -/

namespace Field

variable (paths : RowPaths) (validate : Bool) (field : Field)

/-- The field with the rule of its formula in the formula's place, if it has a formula and that can
be compiled. -/
def compiled : Field :=
  match field.formula? with
  | none => field
  | some formula =>
    match Rule.compile paths validate formula with
    | .ok rule => field.setValueRule rule
    | .error _ => field

def failure? : Option RuleFailure :=
  match field.formula? with
  | none => none
  | some formula =>
    match Rule.compile paths validate formula with
    | .ok _ => none
    | .error e => some ⟨formula, e.message⟩

variable {paths validate field}

theorem compiled_of_none (h : field.formula? = none) : field.compiled paths validate = field := by
  rw [compiled, h]

theorem compiled_of_ok {formula rule : String} (h : field.formula? = some formula)
    (hc : Rule.compile paths validate formula = .ok rule) :
    field.compiled paths validate = field.setValueRule rule := by
  simp only [compiled, h, hc]

theorem compiled_of_error {formula : String} {e : Rule.CompileError}
    (h : field.formula? = some formula) (hc : Rule.compile paths validate formula = .error e) :
    field.compiled paths validate = field := by
  simp only [compiled, h, hc]

theorem failure?_of_none (h : field.formula? = none) : field.failure? paths validate = none := by
  rw [failure?, h]

theorem failure?_of_ok {formula rule : String} (h : field.formula? = some formula)
    (hc : Rule.compile paths validate formula = .ok rule) :
    field.failure? paths validate = none := by
  simp only [failure?, h, hc]

theorem failure?_of_error {formula : String} {e : Rule.CompileError}
    (h : field.formula? = some formula) (hc : Rule.compile paths validate formula = .error e) :
    field.failure? paths validate = some ⟨formula, e.message⟩ := by
  simp only [failure?, h, hc]

theorem get?_compiled {key : String} (h : key ≠ "rules") (field : Field) :
    (field.compiled paths validate).get? key = field.get? key := by
  unfold compiled
  split
  · rfl
  · split
    · exact get?_setValueRule h _ _
    · rfl

theorem name?_compiled (field : Field) : (field.compiled paths validate).name? = field.name? := by
  rw [name?, name?, get?_compiled (by decide)]

theorem isFormula_eq_false {rule : String} (h : NotFormula rule) : isFormula rule = false := by
  rw [isFormula, beq_eq_false_iff_ne]
  exact h

/-- A compiled field has a formula only if the formula cannot be compiled. -/
theorem formula?_compiled (hp : ∀ row path, paths row = some path → NotFormula path)
    {formula rule : String} (h : field.formula? = some formula)
    (hc : Rule.compile paths validate formula = .ok rule) :
    (field.compiled paths validate).formula? = none := by
  obtain ⟨hold, -⟩ := formula?_eq_some_iff.mp h
  rw [compiled_of_ok h hc]
  refine formula?_eq_none (ruleReplaced_setValueRule hold rule).valueRule? ?_
  exact isFormula_eq_false (Rule.notFormula_of_compile hp hc)

variable (validate field) in
/-- **Compiling a second time changes nothing and reports the same.** -/
theorem compiled_compiled (hp : ∀ row path, paths row = some path → NotFormula path) :
    (field.compiled paths validate).compiled paths validate = field.compiled paths validate ∧
    (field.compiled paths validate).failure? paths validate = field.failure? paths validate := by
  cases h : field.formula? with
  | none =>
    rw [compiled_of_none h]
    exact ⟨compiled_of_none h, rfl⟩
  | some formula =>
    cases hc : Rule.compile paths validate formula with
    | ok rule =>
      have hnone := formula?_compiled hp h hc
      exact ⟨compiled_of_none hnone, (failure?_of_none hnone).trans (failure?_of_ok h hc).symm⟩
    | error e =>
      rw [compiled_of_error h hc]
      exact ⟨compiled_of_error h hc, rfl⟩

end Field

theorem Trace.notFormula_paths (trace : Trace) (tree : Tree) :
    ∀ row path, trace.paths tree row = some path → NotFormula path := by
  intro row path h
  unfold paths at h
  split at h
  · cases h
  · cases h
    exact Rule.notFormula_cons (by decide) rfl _
  · split at h <;> cases h
    exact Rule.notFormula_cons (by decide) rfl _

/-! ### The same tree with other fields -/

namespace Tree

/-- A tree with the same lists, in which a field depends on the field that was there. -/
structure Rewritten (f : Nat → Field → Field) (tree tree' : Tree) : Prop where
  roots : tree'.rootItems = tree.rootItems
  nodes : ∀ i, tree'.nodes[i]? = tree.nodes[i]?.map fun node : Node =>
    { node with field := f i node.field }

variable {f : Nat → Field → Field} {tree tree' : Tree}

theorem Rewritten.size (h : Rewritten f tree tree') : tree'.size = tree.size := by
  refine Nat.le_antisymm ?_ ?_
  · have hnode := h.nodes tree.size
    rw [nodes_size] at hnode
    exact Array.getElem?_eq_none_iff.mp hnode
  · have hnode := h.nodes tree'.size
    rw [nodes_size, eq_comm, Option.map_eq_none_iff] at hnode
    exact Array.getElem?_eq_none_iff.mp hnode

theorem Rewritten.field? (h : Rewritten f tree tree') (i : Nat) :
    tree'.field? i = (tree.field? i).map (f i) := by
  rw [Tree.field?, Tree.field?, h.nodes, Option.map_map, Option.map_map]
  rfl

theorem Rewritten.parent? (h : Rewritten f tree tree') (i : Nat) :
    tree'.parent? i = tree.parent? i := by
  rw [Tree.parent?, Tree.parent?, h.nodes, Option.bind_map]
  rfl

theorem Rewritten.children (h : Rewritten f tree tree') (container : Container) :
    tree'.children container = tree.children container := by
  cases container with
  | root => exact h.roots
  | panel id =>
    rw [Tree.children, Tree.children, h.nodes, Option.map_map]
    rfl

theorem Rewritten.unique {tree'' : Tree} (h : Rewritten f tree tree')
    (h' : Rewritten f tree tree'') : tree' = tree'' := by
  have hnodes : tree'.nodes = tree''.nodes := by
    apply Array.ext_getElem?
    intro i
    rw [h.nodes, h'.nodes]
  have hroots : tree'.rootItems = tree''.rootItems := h.roots.trans h'.roots.symm
  cases tree'
  cases tree''
  cases hnodes
  cases hroots
  rfl

theorem Rewritten.congr {g : Nat → Field → Field} (h : Rewritten f tree tree')
    (hfg : ∀ i field, tree.field? i = some field → f i field = g i field) :
    Rewritten g tree tree' where
  roots := h.roots
  nodes i := by
    rw [h.nodes]
    cases hnode : tree.nodes[i]? with
    | none => rfl
    | some node =>
      have hfield : tree.field? i = some node.field := by
        rw [Tree.field?, hnode]
        rfl
      rw [Option.map_some, Option.map_some, hfg i node.field hfield]

theorem Rewritten.path (h : Rewritten f tree tree')
    (hname : ∀ i field, (f i field).name? = field.name?) (i : Nat) :
    tree'.path i = tree.path i := by
  refine path_congr h.parent? (fun j => ?_) i
  rw [Tree.name?, Tree.name?, h.field?, Option.bind_map]
  exact congrArg _ (funext fun field => hname j field)

/-- What rules refer to a row by depends on the paths only. -/
theorem paths_congr (h : ∀ i, tree'.path i = tree.path i) (trace : Trace) :
    trace.paths tree' = trace.paths tree := by
  funext row
  simp only [Trace.paths, h]

theorem rewritten_id (tree : Tree) : Rewritten (fun _ field => field) tree tree where
  roots := rfl
  nodes i := by
    cases tree.nodes[i]? <;> rfl

theorem Rewritten.setField (h : Rewritten f tree tree') (id : Nat) (field : Field) :
    Rewritten (fun i old => if i = id then field else f i old) tree (tree'.setField id field) where
  roots := h.roots
  nodes i := by
    show (tree'.nodes.modify id _)[i]? = _
    rw [Array.getElem?_modify, h.nodes]
    by_cases hi : id = i
    · rw [if_pos hi, Option.map_map]
      simp [hi, Function.comp_def]
    · simp [hi, Ne.symm hi]

/-! ### The queue -/

abbrev Compiled (paths : RowPaths) (validate : Bool) (queue : List Nat) (tree tree' : Tree) :
    Prop :=
  Rewritten (fun i field => if i ∈ queue then field.compiled paths validate else field) tree tree'

variable {paths : RowPaths} {validate : Bool} {queue : List Nat}

/-- A field whose turn it is may have been compiled before. -/
theorem Compiled.setField (h : Compiled paths validate queue tree tree') {id : Nat}
    {field : Field} {formula rule : String} (hfield : tree.field? id = some field)
    (hf : field.formula? = some formula) (hc : Rule.compile paths validate formula = .ok rule) :
    ∃ field', tree'.field? id = some field' ∧
      Compiled paths validate (queue ++ [id]) tree
        (tree'.setField id (field'.setValueRule rule)) := by
  have hcompiled := Field.compiled_of_ok hf hc
  refine ⟨_, by rw [h.field?, hfield]; rfl, ?_⟩
  refine (Rewritten.setField h id _).congr ?_
  intro i old hold
  by_cases hi : i = id
  · subst hi
    cases hfield.symm.trans hold
    rw [if_pos rfl, if_pos (by simp), hcompiled]
    by_cases hq : i ∈ queue
    · simp only [hq, if_true, hcompiled, Field.setValueRule_setValueRule]
    · simp only [hq, if_false]
  · simp [hi]

/-- A field that compiling leaves as it is may be queued or not. -/
theorem Compiled.skip (h : Compiled paths validate queue tree tree') {id : Nat}
    (hid : ∀ field, tree.field? id = some field → field.compiled paths validate = field) :
    Compiled paths validate (queue ++ [id]) tree tree' := by
  refine Rewritten.congr h ?_
  intro i field hfield
  by_cases hi : i = id
  · subst hi
    rw [hid field hfield]
    simp
  · simp [hi]

theorem rewritten_foldl (validate : Bool) (tree : Tree) (trace : Trace) (queue : List Nat) :
    Compiled (trace.paths tree) validate queue tree
      ((queue.filterMap (compileField? validate tree trace)).foldl Compilation.apply tree) := by
  induction queue using List.reverseRecOn with
  | nil => exact (rewritten_id tree).congr fun _ _ _ => by simp
  | append_singleton queue id ih =>
    rw [List.filterMap_append, List.foldl_append, List.filterMap_cons, List.filterMap_nil]
    cases hfield : tree.field? id with
    | none =>
      have hnone : compileField? validate tree trace id = none := by
        rw [compileField?, hfield]
        rfl
      rw [hnone]
      exact ih.skip fun field h => by cases hfield.symm.trans h
    | some field =>
      cases hf : field.formula? with
      | none =>
        have hnone : compileField? validate tree trace id = none := by
          rw [compileField?, hfield, Option.bind_some, hf]
          rfl
        rw [hnone]
        refine ih.skip fun field' h => ?_
        cases hfield.symm.trans h
        exact Field.compiled_of_none hf
      | some formula =>
        have hsome : compileField? validate tree trace id =
            some ⟨id, formula, Rule.compile (trace.paths tree) validate formula⟩ := by
          rw [compileField?, hfield, Option.bind_some, hf]
          rfl
        rw [hsome]
        cases hc : Rule.compile (trace.paths tree) validate formula with
        | ok rule =>
          obtain ⟨field', hfield', hset⟩ := ih.setField hfield hf hc
          simpa [Compilation.apply, hfield'] using hset
        | error e =>
          refine ih.skip fun field' h => ?_
          cases hfield.symm.trans h
          exact Field.compiled_of_error hf hc

def failure? (tree : Tree) (trace : Trace) (validate : Bool) (id : Nat) : Option RuleFailure :=
  (tree.field? id).bind (Field.failure? (trace.paths tree) validate)

end Tree

theorem rewritten_compileAll (validate : Bool) (tree : Tree) (queue : List Nat) (trace : Trace) :
    Tree.Compiled (trace.paths tree) validate queue tree (compileAll validate tree queue trace).1 :=
  Tree.rewritten_foldl validate tree trace queue

theorem failure?_of_compileField? (validate : Bool) (tree : Tree) (trace : Trace) (id : Nat) :
    (compileField? validate tree trace id).bind Compilation.failure? =
      tree.failure? trace validate id := by
  rw [compileField?, Tree.failure?, Option.bind_map, Option.bind_assoc]
  congr 1
  funext field
  unfold Field.failure?
  cases field.formula? with
  | none => rfl
  | some formula => rfl

/-- The reports of `compileAll` are those of the queued fields, one after the other. -/
theorem failures_compileAll (validate : Bool) (tree : Tree) (queue : List Nat) (trace : Trace) :
    (compileAll validate tree queue trace).2 =
      queue.filterMap (tree.failure? trace validate) := by
  rw [compileAll, List.filterMap_filterMap]
  apply List.filterMap_congr
  intro id _
  exact failure?_of_compileField? validate tree trace id

/-- What compiling the fields of a queue does to a tree: the lists stay, and a field changes only
if it is queued and has a formula that can be compiled, and then in nothing but its value rule. -/
structure Tree.CompiledOnly (trace : Trace) (validate : Bool) (queue : List Nat)
    (tree tree' : Tree) : Prop where
  size : tree'.size = tree.size
  children : ∀ container, tree'.children container = tree.children container
  parents : ∀ i, tree'.parent? i = tree.parent? i
  outside : ∀ i, i ∉ queue → tree'.field? i = tree.field? i
  noFormula : ∀ i field, tree.field? i = some field → field.formula? = none →
    tree'.field? i = some field
  failed : ∀ i field formula e, tree.field? i = some field → field.formula? = some formula →
    Rule.compile (trace.paths tree) validate formula = .error e → tree'.field? i = some field
  compiled : ∀ i ∈ queue, ∀ field formula rule, tree.field? i = some field →
    field.formula? = some formula →
    Rule.compile (trace.paths tree) validate formula = .ok rule →
    ∃ field', tree'.field? i = some field' ∧ field.RuleReplaced rule field'

theorem Tree.Compiled.compiledOnly {trace : Trace} {validate : Bool} {queue : List Nat}
    {tree tree' : Tree} (h : Tree.Compiled (trace.paths tree) validate queue tree tree') :
    CompiledOnly trace validate queue tree tree' where
  size := h.size
  children := h.children
  parents := h.parent?
  outside i hi := by
    rw [h.field?]
    simp [hi]
  noFormula i field hfield hf := by
    rw [h.field?, hfield, Option.map_some, Field.compiled_of_none hf, ite_self]
  failed i field formula e hfield hf hc := by
    rw [h.field?, hfield, Option.map_some, Field.compiled_of_error hf hc, ite_self]
  compiled i hi field formula rule hfield hf hc := by
    obtain ⟨hold, -⟩ := Field.formula?_eq_some_iff.mp hf
    refine ⟨_, ?_, Field.ruleReplaced_setValueRule hold rule⟩
    rw [h.field?, hfield, Option.map_some, if_pos hi, Field.compiled_of_ok hf hc]

/-- A second run of the same queue changes nothing and reports the same. -/
theorem compileAll_compileAll (validate : Bool) (tree : Tree) (queue : List Nat) (trace : Trace) :
    compileAll validate (compileAll validate tree queue trace).1 queue trace =
      compileAll validate tree queue trace := by
  have h := rewritten_compileAll validate tree queue trace
  have hpaths : trace.paths (compileAll validate tree queue trace).1 = trace.paths tree := by
    refine Tree.paths_congr (h.path ?_) trace
    intro i field
    split_ifs
    · exact Field.name?_compiled field
    · rfl
  have hagain := fun field : Field =>
    field.compiled_compiled validate (trace.notFormula_paths tree)
  generalize htree : (compileAll validate tree queue trace).1 = tree' at h hpaths
  have h' := rewritten_compileAll validate tree' queue trace
  rw [hpaths] at h'
  refine Prod.ext ?_ ?_
  · -- every field of the second tree is the one of the first
    rw [htree]
    refine (h'.congr fun i field hfield => ?_).unique (Tree.rewritten_id tree')
    rw [h.field?] at hfield
    obtain ⟨old, -, rfl⟩ := Option.map_eq_some_iff.mp hfield
    split_ifs
    · exact (hagain old).1
    · rfl
  · rw [failures_compileAll, failures_compileAll]
    apply List.filterMap_congr
    intro i hi
    rw [Tree.failure?, Tree.failure?, hpaths, h.field?, Option.bind_map]
    congr 1
    funext field
    simp only [Function.comp_apply, if_pos hi]
    exact (hagain field).2

/-- **Compiling a queue changes the compiled rules and nothing else, in any order, and only once.**
Every field that is not queued, has no formula or cannot be compiled stays as it is, and all others
change in their value rule only; a permutation of the queue gives the same tree; what is reported
of a field depends on this field alone, and comes in the order of the queue; and a second run
changes nothing and reports the same. -/
theorem compileAll_frame (validate : Bool) (tree : Tree) (queue : List Nat) (trace : Trace) :
    tree.CompiledOnly trace validate queue (compileAll validate tree queue trace).1 ∧
    (∀ queue' : List Nat, queue'.Perm queue →
      (compileAll validate tree queue' trace).1 = (compileAll validate tree queue trace).1) ∧
    (∀ queue', (compileAll validate tree queue' trace).2 =
      queue'.filterMap (tree.failure? trace validate)) ∧
    compileAll validate (compileAll validate tree queue trace).1 queue trace =
      compileAll validate tree queue trace := by
  have h := rewritten_compileAll validate tree queue trace
  refine ⟨h.compiledOnly, ?_, ?_, compileAll_compileAll validate tree queue trace⟩
  · intro queue' hperm
    refine Tree.Rewritten.unique ?_ h
    refine (rewritten_compileAll validate tree queue' trace).congr fun i field _ => ?_
    simp only [hperm.mem_iff]
  · intro queue'
    exact failures_compileAll validate tree queue' trace

end AdaptiveForm
