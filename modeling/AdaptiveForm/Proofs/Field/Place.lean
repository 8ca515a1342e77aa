import AdaptiveForm.Proofs.Field.Order

/-!
# What stands at a place

A place is a path of keys into nested objects, and `getPath?` finds what stands there.  A value that
is put at a place is found there; on the way to it there are objects; and at a place apart from it
nothing changes.  So of the dotted columns of a row the last one that leads to a place, or to one
inside it, decides what stands there in the end (`getPath?_expand_of_last`).
-/

namespace AdaptiveForm.Field

open AdaptiveForm.Text

/-- The value at a place inside nested objects. -/
def getPath? (target : Entries) : List String → Option Json
  | [] => none
  | [last] => target.get? last
  | head :: rest => getPath? (entriesAt target head) rest

theorem getPath?_cons (target : Entries) (head : String) {rest : List String} (h : rest ≠ []) :
    getPath? target (head :: rest) = getPath? (entriesAt target head) rest := by
  cases rest with
  | nil => exact absurd rfl h
  | cons next rest => rfl

theorem getPath?_of_get?_eq {target target' : Entries} {head : String}
    (h : target'.get? head = target.get? head) (rest : List String) :
    getPath? target' (head :: rest) = getPath? target (head :: rest) := by
  cases rest with
  | nil => exact h
  | cons next rest =>
    rw [getPath?_cons _ _ (List.cons_ne_nil _ _), getPath?_cons _ _ (List.cons_ne_nil _ _),
      entriesAt_of_get?_eq h]

theorem getPath?_insertPath_self {place : List String} (h : place ≠ []) (target : Entries)
    (value : Json) : getPath? (insertPath target place value) place = some value := by
  induction place generalizing target with
  | nil => exact absurd rfl h
  | cons head rest ih =>
    by_cases hrest : rest = []
    · rw [hrest]
      exact Entries.get?_insert_self _ _ _
    · rw [insertPath_cons _ _ hrest, getPath?_cons _ _ hrest, entriesAt_insert_self]
      exact ih hrest _

/-- On the way to the place at which a value has been put there are objects. -/
theorem getPath?_insertPath_of_prefix {place path : List String} (hplace : place ≠ [])
    (h : place <+: path) (hne : place ≠ path) (target : Entries) (value : Json) :
    ∃ entries, getPath? (insertPath target path value) place = some (.object entries) := by
  induction place generalizing path target with
  | nil => exact absurd rfl hplace
  | cons head rest ih =>
    obtain ⟨more, rfl⟩ := h
    rw [List.cons_append] at hne ⊢
    have hmore : rest ≠ rest ++ more := fun heq => hne (congrArg (head :: ·) heq)
    have hpath : rest ++ more ≠ [] := by
      intro hnil
      exact hmore ((List.append_eq_nil_iff.mp hnil).1.trans hnil.symm)
    rw [insertPath_cons _ _ hpath]
    by_cases hrest : rest = []
    · rw [hrest]
      exact ⟨_, Entries.get?_insert_self _ _ _⟩
    · rw [getPath?_cons _ _ hrest, entriesAt_insert_self]
      exact ih hrest (List.prefix_append rest more) hmore _

theorem getPath?_insertPath_of_apart {place path : List String} (h : ¬ path <+: place)
    (h' : ¬ place <+: path) (target : Entries) (value : Json) :
    getPath? (insertPath target path value) place = getPath? target place := by
  induction place generalizing path target with
  | nil => exact absurd List.nil_prefix h'
  | cons head rest ih =>
    cases path with
    | nil => exact absurd List.nil_prefix h
    | cons head' rest' =>
      by_cases hhead : head' = head
      · -- both places lie in the same object
        subst hhead
        rw [List.cons_prefix_cons, and_iff_right rfl] at h h'
        have hrest : rest ≠ [] := fun hnil => h' (hnil ▸ List.nil_prefix)
        have hrest' : rest' ≠ [] := fun hnil => h (hnil ▸ List.nil_prefix)
        rw [insertPath_cons _ _ hrest', getPath?_cons _ _ hrest, getPath?_cons _ _ hrest,
          entriesAt_insert_self]
        exact ih h h' _
      · rw [insertPath_eq_insert]
        exact getPath?_of_get?_eq (Entries.get?_insert_of_ne _ _ (Ne.symm hhead)) rest

/-! ### Places and dotted columns -/

/-- The dotted columns that lead to the place or to one inside it, in order. -/
def columnsInto (place : List String) (field : Field) : List String :=
  ((Entries.keys field).filter isDotted).filter fun key => decide (place <+: split '.' key)

variable {field : Field} {keys : List String}

/-- What is expanded goes into an attribute without dots. -/
theorem head?_split_ne_of_isDotted {key k : String} (hkey : isDotted key = true)
    (hk : isDotted k = true) : (split '.' key).head? ≠ some k := by
  obtain ⟨head, rest, hsplit, -, hhead⟩ := split_of_isDotted hkey
  rw [hsplit, List.head?_cons, ne_eq, Option.some.injEq]
  rintro rfl
  rw [hhead] at hk
  cases hk

theorem get?_foldl_expandKey {key : String} (hkey : isDotted key = true)
    (hkeys : ∀ k ∈ keys, isDotted k = true) (hmem : key ∉ keys) :
    (keys.foldl expandKey field).get? key = field.get? key := by
  induction keys generalizing field with
  | nil => rfl
  | cons k keys ih =>
    rw [List.forall_mem_cons] at hkeys
    rw [List.mem_cons, not_or] at hmem
    rw [List.foldl_cons, ih hkeys.2 hmem.2]
    exact get?_expandKey hkeys.1 hmem.1 (head?_split_ne_of_isDotted hkeys.1 hkey)

/-- A dotted key has two parts at least, so that its path does not end before the second one. -/
theorem not_prefix_pair {key head last : String} (hkey : isDotted key = true)
    (h : ¬ [head, last] <+: split '.' key) : ¬ split '.' key <+: [head, last] := by
  intro hshort
  obtain ⟨first, rest, hsplit, hrest, -⟩ := split_of_isDotted hkey
  have hlength : (split '.' key).length = [head, last].length := by
    have hle := hshort.length_le
    have hpos := List.length_pos_of_ne_nil hrest
    rw [hsplit] at hle ⊢
    simp only [List.length_cons, List.length_nil] at hle ⊢
    omega
  exact h (hshort.eq_of_length hlength ▸ List.prefix_rfl)

theorem get?_expandKey_eq_none {key k : String} (hkey : isDotted key = true)
    (hk : isDotted k = true) (h : field.get? k = none) : (field.expandKey key).get? k = none := by
  by_cases hne : k = key
  · rw [← hne, expandKey_of_none h]
    exact h
  · rw [get?_expandKey hkey hne (head?_split_ne_of_isDotted hkey hk)]
    exact h

/-- Dotted columns that do not lead to a place, nor through it, leave what stands there; those that
are not there any more may lead anywhere. -/
theorem getPath?_foldl_of_apart {place : List String}
    (hplace : ∀ head ∈ place.head?, isDotted head = false)
    (hkeys : ∀ k ∈ keys, isDotted k = true)
    (h : ∀ k ∈ keys, field.get? k = none ∨ ¬ split '.' k <+: place ∧ ¬ place <+: split '.' k) :
    getPath? (keys.foldl expandKey field) place = getPath? field place := by
  induction keys generalizing field with
  | nil => rfl
  | cons k keys ih =>
    rw [List.forall_mem_cons] at hkeys h
    have hlater : ∀ k' ∈ keys, (field.expandKey k).get? k' = none ∨
        ¬ split '.' k' <+: place ∧ ¬ place <+: split '.' k' := fun k' hk' =>
      (h.2 k' hk').imp_left (get?_expandKey_eq_none hkeys.1 (hkeys.2 k' hk'))
    rw [List.foldl_cons, ih hkeys.2 hlater]
    cases hvalue : field.get? k with
    | none => rw [expandKey_of_none hvalue]
    | some value =>
      obtain ⟨hk, hk'⟩ := h.1.resolve_left (by simp [hvalue])
      cases place with
      | nil => exact absurd List.nil_prefix hk'
      | cons head rest =>
        have hne : head ≠ k := by
          rintro rfl
          rw [hplace head rfl] at hkeys
          cases hkeys.1
        rw [expandKey_of_get? hvalue, getPath?_insertPath_of_apart hk hk']
        exact getPath?_of_get?_eq (Entries.get?_erase_of_ne _ hne) rest

variable {head last : String}

/-- Dotted columns that do not lead to a place inside an attribute leave what stands there. -/
theorem getPath?_foldl_pair (hhead : isDotted head = false)
    (hkeys : ∀ k ∈ keys, isDotted k = true) (h : ∀ k ∈ keys, ¬ [head, last] <+: split '.' k) :
    getPath? (keys.foldl expandKey field) [head, last] = getPath? field [head, last] :=
  getPath?_foldl_of_apart (by simpa using hhead) hkeys fun k hk =>
    .inr ⟨not_prefix_pair (hkeys k hk) (h k hk), h k hk⟩

/-- What stands at a place to which no dotted column leads is not touched. -/
theorem getPath?_expand_of_none (hhead : isDotted head = false)
    (h : (columnsInto [head, last] field).getLast? = none) :
    getPath? field.expand [head, last] = getPath? field [head, last] := by
  rw [List.getLast?_eq_none_iff, columnsInto, List.filter_eq_nil_iff] at h
  rw [expand]
  refine getPath?_foldl_pair hhead (fun k hk => (List.mem_filter.mp hk).2) ?_
  intro k hk
  simpa using h k hk

/-- **The last dotted column that leads to a place decides** what stands there: its value if this is
where it leads, and an object if it leads to a place inside. -/
theorem getPath?_expand_of_last (hhead : isDotted head = false)
    (hnodup : ((Entries.keys field).filter isDotted).Nodup) {column : String}
    (h : (columnsInto [head, last] field).getLast? = some column) :
    (split '.' column = [head, last] →
      getPath? field.expand [head, last] = field.get? column) ∧
    (split '.' column ≠ [head, last] → ∃ entries,
      getPath? field.expand [head, last] = some (.object entries)) := by
  obtain ⟨earlier, hcolumns⟩ := List.getLast?_eq_some_iff.mp h
  obtain ⟨before, later, hkeys, -, hlater⟩ := List.filter_eq_append_iff.mp hcolumns
  obtain ⟨between, after, rfl, -, hcolumn, hafter⟩ := List.filter_eq_cons_iff.mp hlater
  rw [List.filter_eq_nil_iff] at hafter
  rw [← List.append_assoc] at hkeys
  have hmem : ∀ k ∈ before ++ between ++ column :: after,
      k ∈ Entries.keys field ∧ isDotted k = true := fun k hk => List.mem_filter.mp (hkeys ▸ hk)
  obtain ⟨hfield, hdotted⟩ := hmem column (List.mem_append_right _ List.mem_cons_self)
  obtain ⟨value, hvalue⟩ := Entries.exists_get?_of_mem_keys field hfield
  -- when its turn comes the column is still there, and nothing behind it leads to the place
  have hstill : ((before ++ between).foldl expandKey field).get? column = some value := by
    rw [hkeys] at hnodup
    rw [get?_foldl_expandKey hdotted (fun k hk => (hmem k (List.mem_append_left _ hk)).2), hvalue]
    exact fun hin => (List.nodup_append.mp hnodup).2.2 column hin column List.mem_cons_self rfl
  rw [expand, hkeys, List.foldl_append, List.foldl_cons,
    getPath?_foldl_pair hhead
      (fun k hk => (hmem k (List.mem_append_right _ (List.mem_cons_of_mem _ hk))).2)
      (fun k hk => by simpa using hafter k hk),
    expandKey_of_get? hstill]
  constructor
  · intro hplace
    rw [hplace, hvalue]
    exact getPath?_insertPath_self (List.cons_ne_nil _ _) _ _
  · intro hinside
    exact getPath?_insertPath_of_prefix (List.cons_ne_nil _ _) (of_decide_eq_true hcolumn)
      (Ne.symm hinside) _ _

end AdaptiveForm.Field
