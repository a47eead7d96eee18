import Mathlib.Data.List.Basic

/-!
# Machines that answer alike

Two machines take the same operations.  When, from related states, they both
fail or both give the same answer and end in related states again, they give the
same answers along every run.
-/

namespace Support

variable {α β γ δ σ τ ε ο : Type*}

/-- Related results are continued to related results. -/
theorem rel_bind {R : α → β → Prop} {S : γ → δ → Prop} {a : Option α} {b : Option β}
    (h : Option.Rel R a b) {f : α → Option γ} {g : β → Option δ}
    (hnext : ∀ x y, R x y → Option.Rel S (f x) (g y)) :
    Option.Rel S (a.bind f) (b.bind g) := by
  cases h with
  | none => exact .none
  | some hab => exact hnext _ _ hab

theorem rel_map {R : α → β → Prop} {S : γ → δ → Prop} {a : Option α} {b : Option β}
    (h : Option.Rel R a b) {f : α → γ} {g : β → δ}
    (hnext : ∀ x y, R x y → S (f x) (g y)) : Option.Rel S (a.map f) (b.map g) := by
  cases h with
  | none => exact .none
  | some hab => exact .some (hnext _ _ hab)

theorem rel_imp {R S : α → β → Prop} {a : Option α} {b : Option β}
    (h : Option.Rel R a b) (himp : ∀ x y, a = some x → b = some y → R x y → S x y) :
    Option.Rel S a b := by
  cases h with
  | none => exact .none
  | some hab => exact .some (himp _ _ rfl rfl hab)

theorem rel_equivalence {R : α → α → Prop} (h : Equivalence R) :
    Equivalence (Option.Rel R) := by
  constructor
  · intro a
    cases a with
    | none => exact .none
    | some x => exact .some (h.refl x)
  · intro a b hab
    cases hab with
    | none => exact .none
    | some hab => exact .some (h.symm hab)
  · intro a b c hab hbc
    cases hab with
    | none => exact hbc
    | some hab =>
        cases hbc with
        | some hbc => exact .some (h.trans hab hbc)

/-- Both fail, or both answer the same and leave related states. -/
def Answers (R : σ → τ → Prop) : Option (ο × σ) → Option (ο × τ) → Prop :=
  Option.Rel fun a b => a.1 = b.1 ∧ R a.2 b.2

theorem answers_trans {τ' : Type*} {R : σ → τ → Prop} {S : τ → τ' → Prop}
    {a : Option (ο × σ)} {b : Option (ο × τ)} {c : Option (ο × τ')} (h : Answers R a b)
    (h' : Answers S b c) : Answers (fun s t => ∃ u, R s u ∧ S u t) a c := by
  cases h with
  | none => cases h' with
    | none => exact .none
  | some hab => cases h' with
    | some hbc => exact .some ⟨hab.1.trans hbc.1, _, hab.2, hbc.2⟩

/-- What a run puts out, operation by operation; `none` if one of them fails. -/
def outputs (step : σ → ε → Option (ο × σ)) : σ → List ε → Option (List ο)
  | _, [] => some []
  | s, op :: ops =>
      (step s op).bind fun answer =>
        (outputs step answer.2 ops).map fun rest => answer.1 :: rest

/-- From related states, every run puts out the same. -/
theorem outputs_eq {R : σ → τ → Prop} {Fits : ε → Prop}
    {step : σ → ε → Option (ο × σ)} {step' : τ → ε → Option (ο × τ)}
    (hstep : ∀ s t op, R s t → Fits op → Answers R (step s op) (step' t op))
    {s : σ} {t : τ} (h : R s t) {ops : List ε} (hops : ∀ op ∈ ops, Fits op) :
    outputs step s ops = outputs step' t ops := by
  induction ops generalizing s t with
  | nil => rfl
  | cons op ops ih =>
      obtain ⟨hop, hrest⟩ := List.forall_mem_cons.mp hops
      have hanswers := hstep s t op h hop
      rw [outputs, outputs]
      generalize step s op = answer, step' t op = answer' at hanswers
      cases hanswers with
      | none => rfl
      | some hrelated =>
          obtain ⟨hsame, hnext⟩ := hrelated
          rw [Option.bind_some, Option.bind_some, hsame, ih hnext hrest]

/-- Machines whose steps always succeed put something out for every operation. -/
theorem exists_outputs {Inv : σ → Prop} {step : σ → ε → Option (ο × σ)}
    (hstep : ∀ s op, Inv s → ∃ o s', step s op = some (o, s') ∧ Inv s') {s : σ}
    (h : Inv s) (ops : List ε) : ∃ os, outputs step s ops = some os := by
  induction ops generalizing s with
  | nil => exact ⟨[], rfl⟩
  | cons op ops ih =>
      obtain ⟨o, s', hs, hinv⟩ := hstep s op h
      obtain ⟨os, hos⟩ := ih hinv
      exact ⟨o :: os, by rw [outputs, hs, Option.bind_some, hos, Option.map_some]⟩

end Support
