import Mathlib.Data.List.Forall2

set_option autoImplicit false

namespace Workbench

variable {ε α β : Type}

theorem bind_eq_ok_iff {first : Except ε α} {next : α → Except ε β} {result : β} :
    (first >>= next) = .ok result ↔ ∃ middle, first = .ok middle ∧ next middle = .ok result := by
  cases first <;> simp [bind, Except.bind]

theorem bind_eq_error_iff {first : Except ε α} {next : α → Except ε β} {error : ε} :
    (first >>= next) = .error error ↔
      first = .error error ∨ ∃ middle, first = .ok middle ∧ next middle = .error error := by
  cases first <;> simp [bind, Except.bind]

theorem mapM_eq_ok_iff {step : α → Except ε β} {items : List α} {results : List β} :
    items.mapM step = .ok results ↔
      List.Forall₂ (fun item result => step item = .ok result) items results := by
  induction items generalizing results with
  | nil => cases results <;> simp [pure, Except.pure]
  | cons item rest ih =>
      simp only [List.mapM_cons, bind_eq_ok_iff, ih]
      constructor
      · rintro ⟨first, done, others, all, same⟩
        obtain rfl := Except.ok.inj same
        exact .cons done all
      · rintro (_ | ⟨done, all⟩)
        exact ⟨_, done, _, all, rfl⟩

theorem mapM_eq_some_iff {step : α → Option β} {items : List α} {results : List β} :
    items.mapM step = some results ↔
      List.Forall₂ (fun item result => step item = some result) items results := by
  induction items generalizing results with
  | nil => cases results <;> simp
  | cons item rest ih =>
      simp only [List.mapM_cons, Option.bind_eq_bind, Option.bind_eq_some_iff, ih]
      constructor
      · rintro ⟨first, done, others, all, same⟩
        obtain rfl := Option.some.inj same
        exact .cons done all
      · rintro (_ | ⟨done, all⟩)
        exact ⟨_, done, _, all, rfl⟩

def faultOf : Except ε α -> Option ε
  | .ok _ => none
  | .error fault => some fault

theorem faultOf_eq_some_iff (outcome : Except ε α) (fault : ε) :
    faultOf outcome = some fault ↔ outcome = .error fault := by
  cases outcome <;> simp [faultOf]

theorem faultOf_eq_none_iff (outcome : Except ε α) :
    faultOf outcome = none ↔ ∃ result, outcome = .ok result := by
  cases outcome <;> simp [faultOf]

-- A step may use what the steps before it have made, but not to decide whether it fails.
theorem faultOf_bind {first : Except ε α} {next : α → Except ε β} {fault : Option ε}
    (behind : ∀ middle, faultOf (next middle) = fault) :
    faultOf (first >>= next) = (faultOf first).or fault := by
  cases first with
  | error => rfl
  | ok middle => exact behind middle

theorem findSome?_cons_eq_or (look : α → Option β) (item : α) (rest : List α) :
    (item :: rest).findSome? look = (look item).or (rest.findSome? look) := by
  rw [List.findSome?_cons]
  cases look item <;> rfl

theorem findSome?_flatMap {γ : Type} (look : β → Option γ) (spread : α → List β)
    (items : List α) :
    (items.flatMap spread).findSome? look =
      items.findSome? fun item => (spread item).findSome? look := by
  induction items with
  | nil => rfl
  | cons item rest ih =>
      rw [List.flatMap_cons, List.findSome?_append, findSome?_cons_eq_or, ih]

theorem faultOf_mapM (step : α → Except ε β) (items : List α) :
    faultOf (items.mapM step) = items.findSome? fun item => faultOf (step item) := by
  induction items with
  | nil => rfl
  | cons item rest ih =>
      have behind (result : β) : faultOf (rest.mapM step >>= fun results =>
          pure (result :: results)) = faultOf (rest.mapM step) := by
        cases rest.mapM step <;> rfl
      rw [List.mapM_cons, findSome?_cons_eq_or, faultOf_bind behind, ih]

theorem forall₂_through {γ : Type} {first : α → β → Prop} {second : β → γ → Prop}
    {both : α → γ → Prop} (through : ∀ item middle result, first item middle →
      second middle result → both item result)
    {items : List α} {middles : List β} {results : List γ}
    (before : List.Forall₂ first items middles) (after : List.Forall₂ second middles results) :
    List.Forall₂ both items results := by
  induction before generalizing results with
  | nil =>
      cases after
      exact .nil
  | cons step _ ih =>
      obtain _ | ⟨next, rest⟩ := after
      exact .cons (through _ _ _ step next) (ih rest)

end Workbench
