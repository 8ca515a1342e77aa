import AdaptiveForm.Proofs.Rule.Emission

/-!
# What a formula demands

An expression demands that the rows of its cells and ranges have paths, that its functions are in
the table, that `if` has two or three arguments, and of a name something that can never be given.
`demands` lists this from left to right: the rows of a range in ascending order, a function before
its arguments, and the number of these behind them.  The text of an expression is refused for the
first demand that is not met, and for no other reason (`fault?_exprText`).  So it is written exactly
if everything that it refers to is there, and it depends on no other row.
-/

namespace AdaptiveForm.Rule

open AdaptiveForm.Formula (Expr Cell BinaryOp UnaryOp)

/-! ### Parts of an expression -/

mutual

def parts : Expr → List Expr
  | .number digits => [.number digits]
  | .text content => [.text content]
  | .bool value => [.bool value]
  | .cell cell => [.cell cell]
  | .range first last => [.range first last]
  | .name name => [.name name]
  | .call function args => .call function args :: partsAll args
  | .unary op operand => .unary op operand :: parts operand
  | .percent operand => .percent operand :: parts operand
  | .binary op left right => .binary op left right :: (parts left ++ parts right)
  | .group inner => .group inner :: parts inner

def partsAll : List Expr → List Expr
  | [] => []
  | arg :: args => parts arg ++ partsAll args

end

/-- The rows from one cell through the other in ascending order, whichever is written first. -/
def rowsBetween (first last : Cell) : List Nat :=
  let low := min first.row last.row
  let high := max first.row last.row
  List.range' low (high + 1 - low)

theorem mem_rowsBetween {first last : Cell} {row : Nat} :
    row ∈ rowsBetween first last ↔
      min first.row last.row ≤ row ∧ row ≤ max first.row last.row := by
  rw [rowsBetween, List.mem_range'_1]
  omega

/-- The row occurs in the expression: it is that of a cell, or it lies in a range. -/
def Mentions (e : Expr) (row : Nat) : Prop :=
  (∃ cell, .cell cell ∈ parts e ∧ cell.row = row) ∨
    ∃ first last, .range first last ∈ parts e ∧
      min first.row last.row ≤ row ∧ row ≤ max first.row last.row

/-! ### Demands -/

/-- What an expression needs so that it can be written as a rule. -/
inductive Demand where
  /-- The row has a path. A cell of the column refers to it. -/
  | row (column : String) (row : Nat)
  | name (name : String)
  | function (name : String)
  | arity (function : String) (count : Nat)

def unmet? (paths : RowPaths) : Demand → Option CompileError
  | .row column row =>
    if (paths row).isSome then none else some (.unknownReference (Cell.text ⟨column, row⟩))
  | .name name => some (.unknownReference name)
  | .function name => if (lowering? name).isSome then none else some (.unsupportedFunction name)
  | .arity function count =>
    if function = "if" → count = 2 ∨ count = 3 then none else some (.conditionalArity count)

/-- The demands of an expression for itself, without those of what stands in it. -/
def ownDemands : Expr → List Demand
  | .cell cell => [.row cell.column cell.row]
  | .range first last => (rowsBetween first last).map (.row first.column)
  | .name name => [.name name]
  | .call function args => [.function function, .arity function args.length]
  | _ => []

mutual

def demands : Expr → List Demand
  | .number digits => ownDemands (.number digits)
  | .text content => ownDemands (.text content)
  | .bool value => ownDemands (.bool value)
  | .cell cell => ownDemands (.cell cell)
  | .range first last => ownDemands (.range first last)
  | .name name => ownDemands (.name name)
  | .call function args =>
    .function function :: (demandsAll args ++ [.arity function args.length])
  | .unary _ operand => demands operand
  | .percent operand => demands operand
  | .binary _ left right => demands left ++ demands right
  | .group inner => demands inner

def demandsAll : List Expr → List Demand
  | [] => []
  | arg :: args => demands arg ++ demandsAll args

end

def firstUnmet? (paths : RowPaths) (demands : List Demand) : Option CompileError :=
  demands.findSome? (unmet? paths)

theorem firstUnmet?_append (paths : RowPaths) (ds ds' : List Demand) :
    firstUnmet? paths (ds ++ ds') = (firstUnmet? paths ds).or (firstUnmet? paths ds') :=
  List.findSome?_append

theorem firstUnmet?_cons (paths : RowPaths) (d : Demand) (ds : List Demand) :
    firstUnmet? paths (d :: ds) = (unmet? paths d).or (firstUnmet? paths ds) := by
  rw [firstUnmet?, List.findSome?_cons]
  cases unmet? paths d <;> rfl

theorem firstUnmet?_eq_none_iff {paths : RowPaths} {ds : List Demand} :
    firstUnmet? paths ds = none ↔ ∀ d ∈ ds, unmet? paths d = none :=
  List.findSome?_eq_none_iff

variable {d : Demand}

theorem exists_mem_cons_of_nil {e : Expr} (h : ownDemands e = []) (es : List Expr) :
    (∃ part ∈ e :: es, d ∈ ownDemands part) ↔ ∃ part ∈ es, d ∈ ownDemands part := by
  simp [h]

mutual

/-- The demands of an expression are the own ones of its parts. -/
theorem mem_demands : ∀ e : Expr, d ∈ demands e ↔ ∃ part ∈ parts e, d ∈ ownDemands part
  | .number _ | .text _ | .bool _ | .cell _ | .range _ _ | .name _ => by
    rw [demands, parts]
    simp only [List.mem_singleton, exists_eq_left]
  | .call function args => by
    have hown : d ∈ ownDemands (.call function args) ↔
        d = .function function ∨ d = .arity function args.length := by
      simp [ownDemands]
    rw [demands, parts]
    simp only [List.mem_cons, List.mem_append, List.not_mem_nil, or_false, exists_eq_or_imp, hown,
      mem_demandsAll args]
    rw [or_assoc]
    exact or_congr_right or_comm
  | .unary op operand => by
    rw [demands, parts, exists_mem_cons_of_nil rfl, mem_demands operand]
  | .percent operand => by
    rw [demands, parts, exists_mem_cons_of_nil rfl, mem_demands operand]
  | .group inner => by
    rw [demands, parts, exists_mem_cons_of_nil rfl, mem_demands inner]
  | .binary op left right => by
    rw [demands, parts, exists_mem_cons_of_nil rfl, List.mem_append, mem_demands left,
      mem_demands right]
    simp only [List.mem_append, or_and_right, exists_or]

theorem mem_demandsAll : ∀ args : List Expr,
    d ∈ demandsAll args ↔ ∃ part ∈ partsAll args, d ∈ ownDemands part
  | [] => by simp [demandsAll, partsAll]
  | arg :: args => by
    rw [demandsAll, partsAll, List.mem_append, mem_demands arg, mem_demandsAll args]
    simp only [List.mem_append, or_and_right, exists_or]

end

/-! ### Refusals -/

def fault? {ε α : Type} : Except ε α → Option ε
  | .error e => some e
  | .ok _ => none

theorem fault?_eq_some_iff {ε α : Type} {x : Except ε α} {e : ε} :
    fault? x = some e ↔ x = .error e := by
  cases x <;> simp [fault?]

theorem fault?_eq_none_iff {ε α : Type} {x : Except ε α} :
    fault? x = none ↔ ∃ a, x = .ok a := by
  cases x <;> simp [fault?]

/-- What comes later fails only if nothing before has failed. -/
theorem fault?_bind {ε α β : Type} {x : Except ε α} {f : α → Except ε β} {later : Option ε}
    (h : ∀ a, x = .ok a → fault? (f a) = later) : fault? (x >>= f) = (fault? x).or later := by
  cases x with
  | error e => rfl
  | ok a => exact h a rfl

theorem fault?_map {ε α β : Type} (x : Except ε α) (f : α → β) :
    fault? (x.map f) = fault? x := by
  cases x <;> rfl

theorem fault?_bind_pure {ε α β : Type} (x : Except ε α) (f : α → β) :
    fault? (x >>= fun a => pure (f a)) = fault? x := by
  cases x <;> rfl

variable {paths : RowPaths}

theorem fault?_cellPath (cell : Cell) :
    fault? (cellPath paths cell) = firstUnmet? paths (ownDemands (.cell cell)) := by
  rw [ownDemands, firstUnmet?_cons, unmet?, cellPath]
  cases paths cell.row <;> rfl

theorem fault?_pathsFrom (column : String) (row count : Nat) :
    fault? (pathsFrom paths column row count) =
      firstUnmet? paths ((List.range' row count).map (.row column)) := by
  induction count generalizing row with
  | zero => rfl
  | succ count ih =>
    rw [pathsFrom, List.range'_succ, List.map_cons, firstUnmet?_cons, unmet?]
    cases paths row with
    | none => rfl
    | some path => exact (fault?_map _ _).trans (ih (row + 1))

theorem fault?_rangePaths (first last : Cell) :
    fault? (rangePaths paths first last) = firstUnmet? paths (ownDemands (.range first last)) :=
  fault?_pathsFrom _ _ _

theorem lowering?_eq_conditional_iff {function : String} :
    lowering? function = some .conditional ↔ function = "if" := by
  have hall : ∀ entry ∈ lowerings, entry.2.target? = some "if" → entry.1 = "if" := by decide
  constructor
  · exact fun h => hall _ (mem_lowerings h) rfl
  · rintro rfl
    rfl

theorem length_argTexts {args : List Expr} {texts : List String}
    (h : argTexts paths args = .ok texts) : texts.length = args.length := by
  induction args generalizing texts with
  | nil =>
    cases h
    rfl
  | cons arg args ih =>
    obtain ⟨text, -, h⟩ := bind_eq_ok.mp h
    obtain ⟨texts, hargs, ⟨⟩⟩ := bind_eq_ok.mp h
    rw [List.length_cons, List.length_cons, ih hargs]

theorem fault?_conditionalText {function : String} (hf : function = "if") (texts : List String) :
    fault? (conditionalText texts) = unmet? paths (.arity function texts.length) := by
  match texts with
  | [] | [_] | [_, _] | [_, _, _] => simp [conditionalText, unmet?, hf, fault?]
  | _ :: _ :: _ :: _ :: _ => simp [conditionalText, unmet?, hf, fault?]

/-- A call of a function in the table is refused for its arguments, and `if` for their number. -/
theorem firstUnmet?_call {function : String} {lowering : Lowering}
    (h : lowering? function = some lowering) (args : List Expr) :
    firstUnmet? paths (demands (.call function args)) =
      (firstUnmet? paths (demandsAll args)).or (unmet? paths (.arity function args.length)) := by
  have hknown : unmet? paths (.function function) = none := by
    rw [unmet?, h]
    rfl
  rw [demands, firstUnmet?_cons, hknown, Option.none_or, firstUnmet?_append, firstUnmet?_cons]
  exact congrArg _ (Option.or_none)

theorem unmet?_arity {function : String} {lowering : Lowering}
    (h : lowering? function = some lowering) (hne : lowering ≠ .conditional) (count : Nat) :
    unmet? paths (.arity function count) = none := by
  have hif : function ≠ "if" := by
    rintro rfl
    exact hne (Option.some.inj (h.symm.trans rfl))
  simp [unmet?, hif]

mutual

/-- **The text of an expression is refused for its first demand that is not met**, and for no other
reason. -/
theorem fault?_exprText : ∀ e : Expr,
    fault? (exprText paths e) = firstUnmet? paths (demands e)
  | .number _ | .text _ | .bool _ | .name _ => rfl
  | .cell cell => fault?_cellPath cell
  | .range first last => (fault?_bind_pure _ _).trans (fault?_rangePaths first last)
  | .group inner => (fault?_bind_pure _ _).trans (fault?_exprText inner)
  | .percent operand => (fault?_bind_pure _ _).trans (fault?_exprText operand)
  | .unary _ operand => (fault?_bind_pure _ _).trans (fault?_exprText operand)
  | .binary _ left right => by
    rw [exprText, demands, firstUnmet?_append, ← fault?_exprText left, ← fault?_exprText right]
    exact fault?_bind fun _ _ => fault?_bind_pure _ _
  | .call function args => by
    rw [exprText]
    split
    · rename_i hf
      rw [demands, firstUnmet?_cons, unmet?, hf]
      rfl
    · rename_i target hf
      rw [firstUnmet?_call hf, unmet?_arity hf nofun, Option.or_none, ← fault?_itemTexts args]
      exact fault?_bind_pure _ _
    · rename_i target hf
      rw [firstUnmet?_call hf, unmet?_arity hf nofun, Option.or_none, ← fault?_argTexts args]
      exact fault?_bind_pure _ _
    · rename_i hf
      rw [firstUnmet?_call hf, ← fault?_argTexts args]
      refine fault?_bind fun texts htexts => ?_
      rw [← length_argTexts htexts]
      exact fault?_conditionalText (lowering?_eq_conditional_iff.mp hf) texts
    · rename_i hf
      rw [firstUnmet?_call hf, unmet?_arity hf nofun, Option.or_none, ← fault?_operandTexts args]
      exact fault?_bind_pure _ _

theorem fault?_argTexts : ∀ args : List Expr,
    fault? (argTexts paths args) = firstUnmet? paths (demandsAll args)
  | [] => rfl
  | arg :: args => by
    rw [argTexts, demandsAll, firstUnmet?_append, ← fault?_exprText arg, ← fault?_argTexts args]
    exact fault?_bind fun _ _ => fault?_bind_pure _ _

theorem fault?_operandTexts : ∀ args : List Expr,
    fault? (operandTexts paths args) = firstUnmet? paths (demandsAll args)
  | [] => rfl
  | arg :: args => by
    rw [operandTexts, demandsAll, firstUnmet?_append, ← fault?_exprText arg,
      ← fault?_operandTexts args]
    exact fault?_bind fun _ _ => fault?_bind_pure _ _

theorem fault?_itemTexts : ∀ args : List Expr,
    fault? (itemTexts paths args) = firstUnmet? paths (demandsAll args)
  | [] => rfl
  | arg :: args => by
    rw [demandsAll, firstUnmet?_append, ← fault?_itemTexts args]
    by_cases hrange : ∃ first last, arg = .range first last
    · obtain ⟨first, last, rfl⟩ := hrange
      rw [itemTexts, demands, ← fault?_rangePaths]
      exact fault?_bind fun _ _ => fault?_bind_pure _ _
    · have hrange : ∀ first last, arg ≠ .range first last :=
        fun first last hrange' => hrange ⟨first, last, hrange'⟩
      rw [itemTexts_cons hrange, ← fault?_exprText arg]
      exact fault?_bind fun _ _ => fault?_bind_pure _ _

end

/-! ### What is referred to -/

/-- Everything that an expression refers to is there. -/
structure Resolvable (paths : RowPaths) (e : Expr) : Prop where
  name : ∀ name, .name name ∉ parts e
  cell : ∀ cell, .cell cell ∈ parts e → (paths cell.row).isSome
  range : ∀ first last, .range first last ∈ parts e → ∀ row,
    min first.row last.row ≤ row → row ≤ max first.row last.row → (paths row).isSome
  function : ∀ function args, .call function args ∈ parts e → (lowering? function).isSome
  conditional : ∀ args, .call "if" args ∈ parts e → args.length = 2 ∨ args.length = 3

theorem refuseUnless_eq_none {met : Prop} [Decidable met] {e : CompileError} :
    (if met then none else some e) = none ↔ met := by
  by_cases h : met <;> simp [h]

theorem unmet?_row_eq_none {column : String} {row : Nat} :
    unmet? paths (.row column row) = none ↔ (paths row).isSome :=
  refuseUnless_eq_none

theorem unmet?_function_eq_none {function : String} :
    unmet? paths (.function function) = none ↔ (lowering? function).isSome :=
  refuseUnless_eq_none

theorem unmet?_arity_eq_none {function : String} {count : Nat} :
    unmet? paths (.arity function count) = none ↔ (function = "if" → count = 2 ∨ count = 3) :=
  refuseUnless_eq_none

theorem mem_ownDemands_range {first last : Cell} {row : Nat} :
    .row first.column row ∈ ownDemands (.range first last) ↔
      min first.row last.row ≤ row ∧ row ≤ max first.row last.row := by
  simp [ownDemands, mem_rowsBetween]

theorem resolvable_iff {e : Expr} :
    Resolvable paths e ↔ ∀ d ∈ demands e, unmet? paths d = none := by
  constructor
  · rintro h d hd
    obtain ⟨part, hpart, hd⟩ := mem_demands e |>.mp hd
    cases part <;> simp only [ownDemands, List.mem_cons, List.not_mem_nil, or_false] at hd
    case cell cell =>
      subst hd
      exact unmet?_row_eq_none.mpr (h.cell _ hpart)
    case range first last =>
      obtain ⟨row, hrow, rfl⟩ := List.mem_map.mp hd
      obtain ⟨hlow, hhigh⟩ := mem_rowsBetween.mp hrow
      exact unmet?_row_eq_none.mpr (h.range _ _ hpart _ hlow hhigh)
    case name name => exact absurd hpart (h.name name)
    case call function args =>
      obtain rfl | rfl := hd
      · exact unmet?_function_eq_none.mpr (h.function _ _ hpart)
      · refine unmet?_arity_eq_none.mpr ?_
        rintro rfl
        exact h.conditional _ hpart
  · intro h
    have own : ∀ {part d}, part ∈ parts e → d ∈ ownDemands part → unmet? paths d = none :=
      fun hpart hd => h _ ((mem_demands e).mpr ⟨_, hpart, hd⟩)
    exact {
      name := fun name hpart =>
        Option.some_ne_none _ (own hpart (List.mem_singleton_self (Demand.name name)))
      cell := fun cell hpart => unmet?_row_eq_none.mp (own hpart (List.mem_singleton_self _))
      range := fun first last hpart row hlow hhigh =>
        unmet?_row_eq_none.mp (own hpart (mem_ownDemands_range.mpr ⟨hlow, hhigh⟩))
      function := fun function args hpart =>
        unmet?_function_eq_none.mp (own hpart List.mem_cons_self)
      conditional := fun args hpart =>
        unmet?_arity_eq_none.mp (own hpart (.tail _ List.mem_cons_self)) rfl }

/-- The rows that an expression mentions are those that it demands. -/
theorem mentions_of_mem_demands {e : Expr} {column : String} {row : Nat}
    (h : .row column row ∈ demands e) : Mentions e row := by
  obtain ⟨part, hpart, hd⟩ := (mem_demands e).mp h
  cases part <;>
    simp only [ownDemands, List.mem_cons, List.not_mem_nil, or_false, reduceCtorEq] at hd
  case cell cell =>
    cases hd
    exact .inl ⟨cell, hpart, rfl⟩
  case range first last =>
    obtain ⟨row, hrow, ⟨⟩⟩ := List.mem_map.mp hd
    exact .inr ⟨first, last, hpart, mem_rowsBetween.mp hrow⟩

theorem Resolvable.isSome {e : Expr} (h : Resolvable paths e) {row : Nat} (hrow : Mentions e row) :
    (paths row).isSome := by
  obtain ⟨cell, hcell, rfl⟩ | ⟨first, last, hrange, hlow, hhigh⟩ := hrow
  · exact h.cell cell hcell
  · exact h.range first last hrange row hlow hhigh

/-! ### Nothing else matters -/

variable {paths' : RowPaths}

def AgreeOn (ds : List Demand) (paths paths' : RowPaths) : Prop :=
  ∀ column row, .row column row ∈ ds → paths' row = paths row

theorem AgreeOn.left {ds ds' : List Demand} (h : AgreeOn (ds ++ ds') paths paths') :
    AgreeOn ds paths paths' :=
  fun column row hmem => h column row (List.mem_append_left _ hmem)

theorem AgreeOn.right {ds ds' : List Demand} (h : AgreeOn (ds ++ ds') paths paths') :
    AgreeOn ds' paths paths' :=
  fun column row hmem => h column row (List.mem_append_right _ hmem)

theorem pathsFrom_congr {column : String} {row count : Nat}
    (h : AgreeOn ((List.range' row count).map (.row column)) paths paths') :
    pathsFrom paths' column row count = pathsFrom paths column row count := by
  induction count generalizing row with
  | zero => rfl
  | succ count ih =>
    rw [List.range'_succ, List.map_cons] at h
    rw [pathsFrom, pathsFrom, h column row List.mem_cons_self,
      ih fun column row hmem => h column row (.tail _ hmem)]

theorem rangePaths_congr {first last : Cell}
    (h : AgreeOn (ownDemands (.range first last)) paths paths') :
    rangePaths paths' first last = rangePaths paths first last :=
  pathsFrom_congr h

mutual

/-- The text of an expression depends only on the rows that the expression demands. -/
theorem exprText_congr : ∀ e : Expr, AgreeOn (demands e) paths paths' →
    exprText paths' e = exprText paths e
  | .number _, _ | .text _, _ | .bool _, _ | .name _, _ => rfl
  | .cell cell, h => by
    rw [exprText, exprText, cellPath, cellPath, h _ _ (List.mem_singleton_self _)]
  | .range first last, h => by
    rw [exprText, exprText, rangePaths_congr h]
  | .group inner, h => by
    rw [exprText, exprText, exprText_congr inner h]
  | .percent operand, h => by
    rw [exprText, exprText, exprText_congr operand h]
  | .unary _ operand, h => by
    rw [exprText, exprText, exprText_congr operand h]
  | .binary _ left right, h => by
    rw [exprText, exprText, exprText_congr left h.left, exprText_congr right h.right]
  | .call function args, h => by
    have hargs : AgreeOn (demandsAll args) paths paths' :=
      AgreeOn.left fun column row hmem => h column row (.tail _ hmem)
    rw [exprText, exprText, argTexts_congr args hargs, operandTexts_congr args hargs,
      itemTexts_congr args hargs]

theorem argTexts_congr : ∀ args : List Expr, AgreeOn (demandsAll args) paths paths' →
    argTexts paths' args = argTexts paths args
  | [], _ => rfl
  | arg :: args, h => by
    rw [argTexts, argTexts, exprText_congr arg h.left, argTexts_congr args h.right]

theorem operandTexts_congr : ∀ args : List Expr, AgreeOn (demandsAll args) paths paths' →
    operandTexts paths' args = operandTexts paths args
  | [], _ => rfl
  | arg :: args, h => by
    rw [operandTexts, operandTexts, exprText_congr arg h.left, operandTexts_congr args h.right]

theorem itemTexts_congr : ∀ args : List Expr, AgreeOn (demandsAll args) paths paths' →
    itemTexts paths' args = itemTexts paths args
  | [], _ => rfl
  | arg :: args, h => by
    by_cases hrange : ∃ first last, arg = .range first last
    · obtain ⟨first, last, rfl⟩ := hrange
      rw [itemTexts, itemTexts, rangePaths_congr h.left, itemTexts_congr args h.right]
    · have hrange : ∀ first last, arg ≠ .range first last :=
        fun first last hrange' => hrange ⟨first, last, hrange'⟩
      rw [itemTexts_cons hrange, itemTexts_cons hrange, exprText_congr arg h.left,
        itemTexts_congr args h.right]

end

/-- **Everything referred to, and nothing else.** An expression is written exactly if everything
that it refers to is there, and otherwise refused for the first demand that is not met, read from
left to right.  Two tables of paths that agree on the rows that occur in it give the same result,
and more rows change nothing about what was written without them. -/
theorem exprText_demands (paths : RowPaths) (e : Expr) :
    ((∃ text, exprText paths e = .ok text) ↔ Resolvable paths e) ∧
    (∀ err, exprText paths e = .error err ↔ firstUnmet? paths (demands e) = some err) ∧
    (∀ paths' : RowPaths, (∀ row, Mentions e row → paths' row = paths row) →
      exprText paths' e = exprText paths e) ∧
    ∀ paths' : RowPaths, (∀ row path, paths row = some path → paths' row = some path) →
      ∀ text, exprText paths e = .ok text → exprText paths' e = .ok text := by
  have written : (∃ text, exprText paths e = .ok text) ↔ Resolvable paths e := by
    rw [← fault?_eq_none_iff, fault?_exprText, firstUnmet?_eq_none_iff, resolvable_iff]
  have congr : ∀ paths' : RowPaths, (∀ row, Mentions e row → paths' row = paths row) →
      exprText paths' e = exprText paths e :=
    fun paths' h => exprText_congr e fun column row hmem => h row (mentions_of_mem_demands hmem)
  refine ⟨written, fun err => ?_, congr, fun paths' hmore text htext => ?_⟩
  · rw [← fault?_eq_some_iff, fault?_exprText]
  · rw [congr paths' fun row hrow => ?_, htext]
    obtain ⟨path, hpath⟩ := Option.isSome_iff_exists.mp ((written.mp ⟨text, htext⟩).isSome hrow)
    rw [hmore row path hpath, hpath]

/-- With row 2 alone, the missing row 3 is reported and not the function after it; a rule for row 2
stays as it is when row 3 is there too. -/
theorem exprText_demands_price :
    let paths : RowPaths := fun row => if row = 2 then some "$form.price" else none
    let more : RowPaths := fun row => if row = 3 then some "$form.count" else paths row
    exprText paths (.binary .add (.call "sum" [.range ⟨"b", 3⟩ ⟨"b", 2⟩]) (.call "vlookup" [])) =
        .error (.unknownReference "b3") ∧
      exprText more (.call "if" [.cell ⟨"b", 2⟩, .number "1"]) =
        .ok "if($form.price, 1, false)" := by
  intro paths more
  have hmore : ∀ row path, paths row = some path → more row = some path := by
    intro row path h
    obtain ⟨rfl, -⟩ : row = 2 ∧ _ := by simpa [paths] using h
    exact h
  exact ⟨((exprText_demands paths _).2.1 _).mpr (by decide +kernel),
    (exprText_demands paths _).2.2.2 more hmore _ (by decide +kernel)⟩

end AdaptiveForm.Rule
