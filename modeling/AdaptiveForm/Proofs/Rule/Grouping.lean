import AdaptiveForm.Proofs.Rule.Grammar
import Mathlib.Data.List.Induction

/-!
# How operators group

A table of operators gives each of them a rank and a side.  An operator groups before those of
lower ranks, and a chain of one operator groups from its side on.  `Groups` is the usual layered
grammar over the operands of a chain: an operand of an operator is a chain of operators of higher
ranks, and on the operator's own side also of the same rank.

A table may have operators of one rank with different sides, and then a chain may group in several
ways or in none.  A chain of one operator, `joined`, groups in one way under every table.
-/

namespace AdaptiveForm.Rule

inductive Side where
  | left
  | right
  deriving DecidableEq, Repr

/-- How tightly the operators bind, and from which side they group. -/
structure Operators where
  rank : String → Nat
  side : String → Side

variable (T : Operators)

/-- The least rank of an operator in the left operand of another one. -/
def Operators.leftRank (symbol : String) : Nat :=
  match T.side symbol with
  | .left => T.rank symbol
  | .right => T.rank symbol + 1

/-- The least rank of an operator in the right operand of another one. -/
def Operators.rightRank (symbol : String) : Nat :=
  match T.side symbol with
  | .left => T.rank symbol + 1
  | .right => T.rank symbol

/-- The chain of `first` and `rest`, all of whose operators have at least the rank `n`, groups as
a term. -/
inductive Groups : Nat → Grouping
  | operand {n t} : Groups n t [] t
  | binary {n symbol first second xs ys l r} (hn : n ≤ T.rank symbol)
      (hl : Groups (T.leftRank symbol) first xs l)
      (hr : Groups (T.rightRank symbol) second ys r) :
      Groups n first (xs ++ (symbol, second) :: ys) (.binary symbol l r)

/-- Operands joined by one operator, from the side on from which it groups. -/
def joined (symbol : String) : Term → List Term → Term
  | first, [] => first
  | first, second :: rest =>
    match T.side symbol with
    | .left => joined symbol (.binary symbol first second) rest
    | .right => .binary symbol first (joined symbol second rest)

variable {T}

theorem groups_nil {n : Nat} {first t : Term} (h : Groups T n first [] t) : t = first := by
  generalize hrest : ([] : List (String × Term)) = rest at h
  cases h with
  | operand => rfl
  | binary hn hl hr => simp at hrest

/-! ### Chains of one operator -/

abbrev links (symbol : String) (operands : List Term) : List (String × Term) :=
  operands.map (symbol, ·)

theorem links_split {symbol symbol' : String} {operands : List Term}
    {xs ys : List (String × Term)} {second : Term}
    (h : links symbol operands = xs ++ (symbol', second) :: ys) :
    ∃ os os', operands = os ++ second :: os' ∧ xs = links symbol os ∧ ys = links symbol os' ∧
      symbol' = symbol := by
  obtain ⟨os, ps, rfl, hx, hp⟩ := List.map_eq_append_iff.mp h
  obtain ⟨o, os', rfl, ho, hy⟩ := List.map_eq_cons_iff.mp hp
  cases ho
  exact ⟨os, os', rfl, hx.symm, hy.symm, rfl⟩

/-- A chain with an operator does not group at a rank above the operator's. -/
theorem operands_nil {n : Nat} {symbol : String} {first t : Term} {operands : List Term}
    (h : Groups T n first (links symbol operands) t) (hn : T.rank symbol < n) : operands = [] := by
  generalize hrest : links symbol operands = rest at h
  cases h with
  | operand => simpa using hrest
  | binary hn' hl hr =>
    obtain ⟨os, os', rfl, -, -, rfl⟩ := links_split hrest
    omega

theorem joined_single (symbol : String) (first second : Term) :
    joined T symbol first [second] = .binary symbol first second := by
  rw [joined]
  cases T.side symbol <;> rfl

theorem joined_left {symbol : String} (h : T.side symbol = .left) (first : Term)
    (operands : List Term) :
    joined T symbol first operands = operands.foldl (.binary symbol) first := by
  induction operands generalizing first with
  | nil => rfl
  | cons second rest ih => rw [joined, h]; exact ih _

theorem joined_right {symbol : String} (h : T.side symbol = .right) (first second : Term)
    (rest : List Term) : joined T symbol first (second :: rest) =
      .binary symbol first (joined T symbol second rest) := by
  rw [joined, h]

theorem groups_joined_left {symbol : String} (h : T.side symbol = .left) {n : Nat}
    (hn : n ≤ T.rank symbol) (first : Term) (operands : List Term) :
    Groups T n first (links symbol operands) (operands.foldl (.binary symbol) first) := by
  induction operands using List.reverseRecOn generalizing n with
  | nil => exact .operand
  | append_singleton operands last ih =>
    rw [List.foldl_append, List.foldl_cons, List.foldl_nil, links, List.map_append]
    refine .binary hn (ih ?_) (Groups.operand : Groups T _ last [] last)
    rw [Operators.leftRank, h]

theorem groups_joined_right {symbol : String} (h : T.side symbol = .right) {n : Nat}
    (hn : n ≤ T.rank symbol) (first : Term) (operands : List Term) :
    Groups T n first (links symbol operands) (joined T symbol first operands) := by
  induction operands generalizing n first with
  | nil => exact .operand
  | cons second rest ih =>
    rw [joined_right h]
    refine .binary hn (Groups.operand : Groups T _ first [] first) (ih ?_ second)
    rw [Operators.rightRank, h]

theorem groups_joined {symbol : String} {n : Nat} (hn : n ≤ T.rank symbol) (first : Term)
    (operands : List Term) :
    Groups T n first (links symbol operands) (joined T symbol first operands) := by
  cases hs : T.side symbol with
  | left => rw [joined_left hs]; exact groups_joined_left hs hn first operands
  | right => exact groups_joined_right hs hn first operands

theorem eq_joined_left {symbol : String} (h : T.side symbol = .left) {n : Nat} {first t : Term}
    {rest : List (String × Term)} (hg : Groups T n first rest t) :
    ∀ operands, rest = links symbol operands → t = operands.foldl (.binary symbol) first := by
  induction hg with
  | operand =>
    intro operands he
    rw [List.map_eq_nil_iff.mp he.symm]
    rfl
  | binary hn hl hr ih ih' =>
    intro operands he
    obtain ⟨os, os', rfl, rfl, rfl, rfl⟩ := links_split he.symm
    have hos' := operands_nil hr (by rw [Operators.rightRank, h]; exact Nat.lt_succ_self _)
    subst hos'
    rw [List.foldl_append, List.foldl_cons, List.foldl_nil, ih os rfl, groups_nil hr]

theorem eq_joined_right {symbol : String} (h : T.side symbol = .right) {n : Nat} {first t : Term}
    {rest : List (String × Term)} (hg : Groups T n first rest t) :
    ∀ operands, rest = links symbol operands → t = joined T symbol first operands := by
  induction hg with
  | operand =>
    intro operands he
    rw [List.map_eq_nil_iff.mp he.symm]
    rfl
  | binary hn hl hr ih ih' =>
    intro operands he
    obtain ⟨os, os', rfl, rfl, rfl, rfl⟩ := links_split he.symm
    have hos := operands_nil hl (by rw [Operators.leftRank, h]; exact Nat.lt_succ_self _)
    subst hos
    rw [List.nil_append, joined_right h, groups_nil hl, ih' os' rfl]

/-- **A chain of one operator groups from the operator's side on**, and in no other way. -/
theorem eq_joined {symbol : String} {n : Nat} {first t : Term} {operands : List Term}
    (h : Groups T n first (links symbol operands) t) : t = joined T symbol first operands := by
  cases hs : T.side symbol with
  | left => rw [joined_left hs]; exact eq_joined_left hs h operands rfl
  | right => exact eq_joined_right hs h operands rfl

/-! ### Chains that group in one way -/

def GroupsOnly (T : Operators) : Grouping :=
  fun first rest t => Groups T 0 first rest t ∧ ∀ t', Groups T 0 first rest t' → t' = t

theorem groupsOnly_nil (t : Term) : GroupsOnly T t [] t :=
  ⟨.operand, fun _ h => groups_nil h⟩

theorem groupsOnly_joined (symbol : String) (first : Term) (operands : List Term) :
    GroupsOnly T first (links symbol operands) (joined T symbol first operands) :=
  ⟨groups_joined (Nat.zero_le _) first operands, fun _ h => eq_joined h⟩

theorem groupsOnly_single (symbol : String) (first second : Term) :
    GroupsOnly T first [(symbol, second)] (.binary symbol first second) := by
  have h := groupsOnly_joined (T := T) symbol first [second]
  rwa [joined_single] at h

end AdaptiveForm.Rule
