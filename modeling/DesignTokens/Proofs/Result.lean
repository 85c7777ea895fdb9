import Mathlib.Data.List.Forall2

/-!
# Results that may fail

`Except` holds the results of everything that does not touch files. The lemmas here take results
apart: when a sequence of two steps, a change of the value or a list of results succeeds, and which
failure is told otherwise.
-/

set_option autoImplicit false

namespace DesignTokens.Result

universe u

variable {ε α β : Type u}

/-- Two steps succeed if both do. -/
theorem bind_eq_ok_iff {result : Except ε α} {next : α → Except ε β} {b : β} :
    (result >>= next) = .ok b ↔ ∃ a, result = .ok a ∧ next a = .ok b := by
  cases result with
  | error fault => simp [bind, Except.bind]
  | ok a => simp [bind, Except.bind]

/-- Two steps fail if the first one does, or if it succeeds and the second one fails. -/
theorem bind_eq_error_iff {result : Except ε α} {next : α → Except ε β} {fault : ε} :
    (result >>= next) = .error fault ↔
      result = .error fault ∨ ∃ a, result = .ok a ∧ next a = .error fault := by
  cases result with
  | error other => simp [bind, Except.bind]
  | ok a => simp [bind, Except.bind]

/-- A check and a step behind it succeed if both do. -/
theorem check_eq_ok_iff {ε β : Type} {check : Except ε Unit} {next : Unit → Except ε β} {b : β} :
    (check >>= next) = .ok b ↔ check = .ok () ∧ next () = .ok b := by
  rw [bind_eq_ok_iff]
  exact ⟨fun ⟨(), hcheck, hnext⟩ => ⟨hcheck, hnext⟩, fun h => ⟨(), h⟩⟩

/-- A success has no error that could be changed. -/
@[simp] theorem mapError_ok {ε' : Type u} {change : ε → ε'} {a : α} :
    (Except.ok a : Except ε α).mapError change = .ok a := rfl

/-- A change of the failure leaves the successes. -/
theorem mapError_eq_ok_iff {ε' : Type u} {change : ε → ε'} {result : Except ε α} {a : α} :
    result.mapError change = .ok a ↔ result = .ok a := by
  cases result with
  | error fault => exact ⟨nofun, nofun⟩
  | ok b => rw [mapError_ok, Except.ok.injEq, Except.ok.injEq]

/-- What stands on the right of two related lists is related to something on the left. -/
theorem exists_of_mem_right {related : α → β → Prop} {items : List α} {found : List β}
    (h : List.Forall₂ related items found) {b : β} (hmem : b ∈ found) :
    ∃ a ∈ items, related a b := by
  induction h with
  | nil => cases hmem
  | @cons first other items found hfirst _ ih =>
    rcases List.mem_cons.1 hmem with rfl | hmem
    · exact ⟨first, List.mem_cons_self, hfirst⟩
    · obtain ⟨a, ha, hrelated⟩ := ih hmem
      exact ⟨a, List.mem_cons_of_mem _ ha, hrelated⟩

/-- A list of results succeeds with the values of its results, in order. -/
theorem mapM_eq_ok_iff {step : α → Except ε β} {items : List α} {found : List β} :
    items.mapM step = .ok found ↔ List.Forall₂ (fun a b => step a = .ok b) items found := by
  induction items generalizing found with
  | nil =>
    simp only [List.mapM_nil, pure, Except.pure, Except.ok.injEq, List.forall₂_nil_left_iff]
    exact eq_comm
  | cons item items ih =>
    rw [List.mapM_cons, List.forall₂_cons_left_iff, bind_eq_ok_iff]
    simp only [bind_eq_ok_iff, ih, pure, Except.pure, Except.ok.injEq]
    constructor
    · rintro ⟨b, hb, bs, hbs, rfl⟩
      exact ⟨b, bs, hb, hbs, rfl⟩
    · rintro ⟨b, bs, hb, hbs, rfl⟩
      exact ⟨b, hb, bs, hbs, rfl⟩

/-- A list of results fails with its first failure. Everything in front of that one has a result,
and what stands behind it is never looked at. -/
theorem mapM_eq_error_iff {step : α → Except ε β} {items : List α} {fault : ε} :
    items.mapM step = .error fault ↔
      ∃ before item after, items = before ++ item :: after ∧
        (∀ other ∈ before, ∃ b, step other = .ok b) ∧ step item = .error fault := by
  induction items with
  | nil => simp [pure, Except.pure]
  | cons first items ih =>
    -- the first item fails, or it succeeds and one behind it fails
    rw [List.mapM_cons, bind_eq_error_iff]
    simp only [bind_eq_error_iff, ih, pure, Except.pure, reduceCtorEq, and_false, exists_false,
      or_false]
    constructor
    · rintro (hfirst | ⟨b, hfirst, before, item, after, rfl, hbefore, hitem⟩)
      · exact ⟨[], first, items, rfl, List.forall_mem_nil _, hfirst⟩
      · refine ⟨first :: before, item, after, rfl, ?_, hitem⟩
        exact List.forall_mem_cons.2 ⟨⟨b, hfirst⟩, hbefore⟩
    · rintro ⟨before, item, after, hsplit, hbefore, hitem⟩
      cases before with
      | nil =>
        obtain ⟨rfl, rfl⟩ := List.cons.inj hsplit
        exact .inl hitem
      | cons other before =>
        obtain ⟨rfl, rfl⟩ := List.cons.inj hsplit
        obtain ⟨⟨b, hfirst⟩, hbefore⟩ := List.forall_mem_cons.1 hbefore
        exact .inr ⟨b, hfirst, before, item, after, rfl, hbefore, hitem⟩

end DesignTokens.Result
