import Mathlib.Data.List.TakeDrop

/-!
# The first impossible token

A list of tokens that is not accepted has a first token with which no accepted list can go on, or
else it ends too early.  A reader that goes from token to token stops at this place if it can come
from each of its states to an end (`Runs.firstImpossible`): it never refuses a token that could
stand where it does, and refuses one that could not as soon as it is read.
-/

namespace AdaptiveForm.Text

variable {α : Type} {Accepted : List α → Prop} {tokens : List α}

def Viable (Accepted : List α → Prop) (tokens : List α) : Prop :=
  ∃ rest, Accepted (tokens ++ rest)

theorem Viable.of_append {rest : List α} (h : Viable Accepted (tokens ++ rest)) :
    Viable Accepted tokens := by
  obtain ⟨rest', h⟩ := h
  exact ⟨rest ++ rest', by rwa [← List.append_assoc]⟩

/-- The token at `i` is the first impossible one: the tokens before it can be continued to an
accepted list, and no accepted list begins with those through it.  Behind the last token stands the
end, which is impossible where the tokens are not accepted as they are. -/
structure FirstImpossible (Accepted : List α → Prop) (tokens : List α) (i : Nat) : Prop where
  le_length : i ≤ tokens.length
  before : Viable Accepted (tokens.take i)
  through : i < tokens.length → ¬ Viable Accepted (tokens.take (i + 1))
  ending : i = tokens.length → ¬ Accepted tokens

theorem FirstImpossible.le {i j : Nat} (hi : FirstImpossible Accepted tokens i)
    (hj : FirstImpossible Accepted tokens j) : j ≤ i := by
  by_contra hlt
  obtain ⟨n, rfl⟩ := Nat.exists_eq_add_of_lt (Nat.lt_of_not_le hlt)
  have hbefore := hj.before
  rw [Nat.add_right_comm, List.take_add] at hbefore
  have := hj.le_length
  exact hi.through (by omega) hbefore.of_append

theorem FirstImpossible.unique {i j : Nat} (hi : FirstImpossible Accepted tokens i) :
    FirstImpossible Accepted tokens j ↔ j = i :=
  ⟨fun hj => Nat.le_antisymm (hi.le hj) (hj.le hi), fun h => h ▸ hi⟩

/-! ### Readers that can go on -/

variable {σ ε ρ : Type} {step : σ → α → Except ε σ} {finish : σ → Except ε ρ} {start : σ}

def Completes (step : σ → α → Except ε σ) (finish : σ → Except ε ρ) (state : σ)
    (tokens : List α) : Prop :=
  ∃ last, tokens.foldlM step state = .ok last ∧ ∃ result, finish last = .ok result

def Ends (step : σ → α → Except ε σ) (finish : σ → Except ε ρ) (state : σ) : Prop :=
  ∃ rest, Completes step finish state rest

theorem Ends.of_finish {state : σ} {result : ρ} (h : finish state = .ok result) :
    Ends step finish state :=
  ⟨[], state, rfl, result, h⟩

theorem Ends.of_step {state next : σ} {token : α} (hstep : step state token = .ok next)
    (h : Ends step finish next) : Ends step finish state := by
  obtain ⟨rest, last, hrest, hlast⟩ := h
  refine ⟨token :: rest, last, ?_, hlast⟩
  rw [List.foldlM_cons, hstep]
  exact hrest

/-- The reader accepts what it can read to an end, and can come from each of its states to one. -/
structure GoesOn (step : σ → α → Except ε σ) (finish : σ → Except ε ρ) (start : σ)
    (Accepted : List α → Prop) : Prop where
  accepted : ∀ tokens, Accepted tokens ↔ Completes step finish start tokens
  ends : ∀ state, Ends step finish state

theorem GoesOn.viable (h : GoesOn step finish start Accepted) {state : σ}
    (hs : tokens.foldlM step start = .ok state) : Viable Accepted tokens := by
  obtain ⟨rest, last, hrest, hlast⟩ := h.ends state
  refine ⟨rest, (h.accepted _).mpr ⟨last, ?_, hlast⟩⟩
  rw [List.foldlM_append, hs]
  exact hrest

theorem GoesOn.not_viable (h : GoesOn step finish start Accepted) {fault : ε}
    (hs : tokens.foldlM step start = .error fault) : ¬ Viable Accepted tokens := by
  rintro ⟨rest, hrest⟩
  obtain ⟨last, hread, -⟩ := (h.accepted _).mp hrest
  rw [List.foldlM_append, hs] at hread
  cases hread

theorem GoesOn.firstImpossible_of_step (h : GoesOn step finish start Accepted)
    {before after : List α} {token : α} {state : σ} {fault : ε}
    (hs : before.foldlM step start = .ok state) (hstep : step state token = .error fault) :
    FirstImpossible Accepted (before ++ token :: after) before.length where
  le_length := by simp
  before := by
    rw [List.take_left]
    exact h.viable hs
  through := by
    intro _
    have hread : (before ++ [token]).foldlM step start = .error fault := by
      rw [List.foldlM_append, hs]
      change (step state token >>= pure) = _
      rw [hstep]
      rfl
    have hthrough : (before ++ token :: after).take (before.length + 1) = before ++ [token] := by
      simp [List.take_append]
    rw [hthrough]
    exact h.not_viable hread
  ending := by simp

theorem GoesOn.firstImpossible_of_end (h : GoesOn step finish start Accepted) {state : σ}
    {fault : ε} (hs : tokens.foldlM step start = .ok state) (hf : finish state = .error fault) :
    FirstImpossible Accepted tokens tokens.length where
  le_length := Nat.le_refl _
  before := by
    rw [List.take_length]
    exact h.viable hs
  through := fun hlt => absurd hlt (Nat.lt_irrefl _)
  ending := by
    rintro - hacc
    obtain ⟨last, hread, result, hlast⟩ := (h.accepted _).mp hacc
    cases hs.symm.trans hread
    cases hf.symm.trans hlast

/-! ### Runs that show where they stop -/

variable {τ E : Type} {kind : τ → α} {shown : List τ → ε → E} {run : σ → List τ → Except E ρ}

/-- The function reads tokens of the given kinds to the end.  A fault is shown with the tokens that
are left, of which the first is the one that is refused. -/
structure Runs (step : σ → α → Except ε σ) (finish : σ → Except ε ρ) (kind : τ → α)
    (shown : List τ → ε → E) (run : σ → List τ → Except E ρ) : Prop where
  nil : ∀ state, run state [] = (finish state).mapError (shown [])
  cons : ∀ state token left, run state (token :: left) =
    (step state (kind token)).mapError (shown (token :: left)) >>= fun next => run next left

/-- A run stops at a token that is refused, or at the end. -/
theorem Runs.exists_stop (hrun : Runs step finish kind shown run) {state : σ} {all : List τ} {e : E}
    (h : run state all = .error e) : ∃ before left last fault, all = before ++ left ∧
      e = shown left fault ∧ (before.map kind).foldlM step state = .ok last ∧
      ((∃ token after, left = token :: after ∧ step last (kind token) = .error fault) ∨
        left = [] ∧ finish last = .error fault) := by
  induction all generalizing state with
  | nil =>
    rw [hrun.nil] at h
    cases hf : finish state with
    | ok result =>
      rw [hf] at h
      cases h
    | error fault =>
      rw [hf] at h
      cases h
      exact ⟨[], [], state, fault, rfl, rfl, rfl, .inr ⟨rfl, hf⟩⟩
  | cons token left ih =>
    rw [hrun.cons] at h
    cases hs : step state (kind token) with
    | error fault =>
      rw [hs] at h
      cases h
      exact ⟨[], token :: left, state, fault, rfl, rfl, rfl, .inl ⟨token, left, rfl, hs⟩⟩
    | ok next =>
      rw [hs] at h
      obtain ⟨before, left, last, fault, rfl, rfl, hread, hstop⟩ := ih h
      refine ⟨token :: before, left, last, fault, rfl, rfl, ?_, hstop⟩
      rw [List.map_cons, List.foldlM_cons, hs]
      exact hread

/-- **A reader that can go on stops at the first impossible token.** -/
theorem Runs.firstImpossible (hrun : Runs step finish kind shown run)
    (h : GoesOn step finish start Accepted) {all : List τ} {e : E}
    (he : run start all = .error e) : ∃ i fault, e = shown (all.drop i) fault ∧
      ∀ j, FirstImpossible Accepted (all.map kind) j ↔ j = i := by
  obtain ⟨before, left, last, fault, rfl, rfl, hread, ⟨token, after, rfl, hstep⟩ | ⟨rfl, hf⟩⟩ :=
    hrun.exists_stop he
  · have hfirst : FirstImpossible Accepted (before.map kind ++ kind token :: after.map kind)
        (before.map kind).length := h.firstImpossible_of_step hread hstep
    rw [List.length_map] at hfirst
    refine ⟨before.length, fault, by rw [List.drop_left], fun j => ?_⟩
    rw [List.map_append, List.map_cons]
    exact hfirst.unique
  · have hfirst := h.firstImpossible_of_end hread hf
    rw [List.length_map] at hfirst
    rw [List.append_nil]
    exact ⟨before.length, fault, by rw [List.drop_length], fun j => hfirst.unique⟩

end AdaptiveForm.Text
