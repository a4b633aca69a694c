import Mathlib.Logic.Basic

/-! Runs of a deterministic system over a list of events, and the invariant rule for runs whose steps all
meet a condition. -/

namespace Netfast.Run

variable {σ ε : Type*} (step : σ → ε → σ)

def run (s : σ) (es : List ε) : σ := es.foldl step s

theorem run_append (s : σ) (es es' : List ε) : run step s (es ++ es') = run step (run step s es) es' :=
  List.foldl_append

/-- Every step of the run from `s` meets `ok`. -/
def Meets (ok : σ → ε → Prop) : σ → List ε → Prop
  | _, [] => True
  | s, e :: es => ok s e ∧ Meets ok (step s e) es

variable {step} {ok : σ → ε → Prop} {I : σ → Prop} {s : σ} {es : List ε}

theorem run_invariant (hstep : ∀ s e, I s → ok s e → I (step s e))
    (hs : I s) (hes : Meets step ok s es) : I (run step s es) := by
  induction es generalizing s with
  | nil => exact hs
  | cons e es ih => exact ih (hstep s e hs hes.1) hes.2

theorem run_always (hstep : ∀ s e, I s → I (step s e)) (hs : I s) (es : List ε) : I (run step s es) := by
  induction es generalizing s with
  | nil => exact hs
  | cons e es ih => exact ih (hstep s e hs)

theorem Meets.of_mem {P : ε → Prop} (hP : ∀ e ∈ es, P e) : Meets step (fun _ e => P e) s es := by
  induction es generalizing s with
  | nil => trivial
  | cons e es ih => exact ⟨hP e List.mem_cons_self, ih fun e' he' => hP e' (List.mem_cons_of_mem e he')⟩

theorem Meets.and_mem {P : ε → Prop}
    (h : Meets step ok s es) (hP : ∀ e ∈ es, P e) : Meets step (fun s e => P e ∧ ok s e) s es := by
  induction es generalizing s with
  | nil => trivial
  | cons e es ih =>
    exact ⟨⟨hP e List.mem_cons_self, h.1⟩, ih h.2 fun e' he' => hP e' (List.mem_cons_of_mem e he')⟩

theorem Meets.append {es es' : List ε} (h : Meets step ok s (es ++ es')) :
    Meets step ok s es ∧ Meets step ok (run step s es) es' := by
  induction es generalizing s with
  | nil => exact ⟨trivial, h⟩
  | cons a es ih => exact ⟨⟨h.1, (ih h.2).1⟩, (ih h.2).2⟩

theorem Meets.concat {e : ε} (h : Meets step ok s (es ++ [e])) : Meets step ok s es ∧ ok (run step s es) e :=
  ⟨h.append.1, h.append.2.1⟩

theorem meets_iff_forall : Meets step ok s es ↔ ∀ es₁ e es₂, es = es₁ ++ e :: es₂ → ok (run step s es₁) e := by
  constructor
  · rintro h es₁ e es₂ rfl
    exact h.append.2.1
  · intro h
    induction es generalizing s with
    | nil => trivial
    | cons e es ih =>
      refine ⟨h [] e es rfl, ih fun es₁ e' es₂ heq => ?_⟩
      exact h (e :: es₁) e' es₂ (by rw [heq, List.cons_append])

theorem meets_iff {P Q ok : σ → ε → Prop} (hPQ : ∀ s e, I s → ok s e → (P s e ↔ Q s e))
    (hstep : ∀ s e, I s → ok s e → Q s e → I (step s e)) (hs : I s)
    (hes : Meets step ok s es) : Meets step P s es ↔ Meets step Q s es := by
  induction es generalizing s with
  | nil => exact Iff.rfl
  | cons e es ih =>
    have hhead := hPQ s e hs hes.1
    constructor
    · intro h
      have hq := hhead.mp h.1
      exact ⟨hq, (ih (hstep s e hs hes.1 hq) hes.2).mp h.2⟩
    · intro h
      exact ⟨hhead.mpr h.1, (ih (hstep s e hs hes.1 h.1) hes.2).mpr h.2⟩

end Netfast.Run
