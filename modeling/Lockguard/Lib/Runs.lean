import Mathlib.Data.List.Induction
/-!
# Runs of a step function, turn by turn

A run is kept as the list of its turns, oldest first: the state an event met and the event.
`inv_of` is the one induction over runs; `Since` is the past-time operator the properties of
runs are written with (something happened, and another thing has held ever since).
-/
namespace Runs

structure Turn (σ ε : Type) where
  before : σ
  event : ε

section
variable {σ ε : Type} (step : σ → ε → σ)

/-- The state after a run. -/
def final (s : σ) (es : List ε) : σ := es.foldl step s

def turns : σ → List ε → List (Turn σ ε)
  | _, [] => []
  | s, e :: es => ⟨s, e⟩ :: turns (step s e) es

@[simp] theorem turns_nil (s : σ) : turns step s [] = [] := rfl

@[simp] theorem final_nil (s : σ) : final step s [] = s := rfl

theorem final_cons (s : σ) (e : ε) (es : List ε) : final step s (e :: es) = final step (step s e) es := rfl

theorem final_append (s : σ) (es fs : List ε) :
    final step s (es ++ fs) = final step (final step s es) fs := by
  simp [final]

@[simp] theorem final_snoc (s : σ) (es : List ε) (e : ε) :
    final step s (es ++ [e]) = step (final step s es) e := by
  simp [final]

theorem turns_append (s : σ) (es fs : List ε) :
    turns step s (es ++ fs) = turns step s es ++ turns step (final step s es) fs := by
  induction es generalizing s with
  | nil => rfl
  | cons e es ih => simp [turns, ih, final]

@[simp] theorem turns_snoc (s : σ) (es : List ε) (e : ε) :
    turns step s (es ++ [e]) = turns step s es ++ [⟨final step s es, e⟩] := by
  rw [turns_append]; rfl

@[simp] theorem map_event_turns (s : σ) (es : List ε) : (turns step s es).map Turn.event = es := by
  induction es generalizing s with
  | nil => rfl
  | cons e es ih => simp [turns, ih]

/-- A run of events that carry more than the step function looks at. -/
theorem map_turns {η : Type} (f : η → ε) (s : σ) (es : List η) :
    (turns (fun s e => step s (f e)) s es).map (fun x => ⟨x.before, f x.event⟩) = turns step s (es.map f) := by
  induction es generalizing s with
  | nil => rfl
  | cons e es ih => simp [turns, ih]

/-- Every turn of a run is met in the state its own past leads to. -/
theorem turns_split {s : σ} {es : List ε} {pre post : List (Turn σ ε)} {t : Turn σ ε}
    (h : turns step s es = pre ++ t :: post) :
    ∃ es₁ es₂, es = es₁ ++ t.event :: es₂ ∧ pre = turns step s es₁ ∧
      t.before = final step s es₁ ∧ post = turns step (step t.before t.event) es₂ := by
  induction es generalizing s pre with
  | nil => simp [turns] at h
  | cons e es ih =>
    cases pre with
    | nil =>
      simp only [turns, List.nil_append, List.cons.injEq] at h
      obtain ⟨rfl, rfl⟩ := h
      exact ⟨[], es, rfl, rfl, rfl, rfl⟩
    | cons p pre =>
      simp only [turns, List.cons_append, List.cons.injEq] at h
      obtain ⟨rfl, h⟩ := h
      obtain ⟨es₁, es₂, rfl, rfl, hb, hp⟩ := ih h
      exact ⟨e :: es₁, es₂, rfl, rfl, hb, hp⟩

/-- **The invariant rule.** What holds of the empty past and is kept by every turn its past allows
holds after every run of such turns. -/
theorem inv_of {A : List (Turn σ ε) → Turn σ ε → Prop} {I : List (Turn σ ε) → σ → Prop} {s : σ}
    (h0 : I [] s) (hs : ∀ tr s e, I tr s → A tr ⟨s, e⟩ → I (tr ++ [⟨s, e⟩]) (step s e)) (es : List ε)
    (hA : ∀ pre t post, turns step s es = pre ++ t :: post → A pre t) :
    I (turns step s es) (final step s es) := by
  induction es using List.reverseRecOn with
  | nil => exact h0
  | append_singleton es e ih =>
    rw [turns_snoc, final_snoc]
    refine hs _ _ _ (ih fun pre t post h => hA pre t (post ++ [⟨final step s es, e⟩]) ?_)
      (hA _ _ [] (turns_snoc step s es e))
    rw [turns_snoc, h]
    simp

theorem inv {I : List (Turn σ ε) → σ → Prop} {s : σ} (h0 : I [] s)
    (hs : ∀ tr s e, I tr s → I (tr ++ [⟨s, e⟩]) (step s e)) (es : List ε) :
    I (turns step s es) (final step s es) :=
  inv_of step (A := fun _ _ => True) h0 (fun tr s e h _ => hs tr s e h) es fun _ _ _ _ => trivial

end

/-! ## Since -/

section
variable {τ : Type} {φ : List τ → τ → Prop} {ψ : τ → Prop}

/-- `φ` held at some turn (given its past) and `ψ` has held at every turn after it. -/
def Since (φ : List τ → τ → Prop) (ψ : τ → Prop) (tr : List τ) : Prop :=
  ∃ old t mid, tr = old ++ t :: mid ∧ φ old t ∧ ∀ x ∈ mid, ψ x

theorem since_now {tr : List τ} {x : τ} (h : φ tr x) : Since φ ψ (tr ++ [x]) :=
  ⟨tr, x, [], rfl, h, by simp⟩

theorem Since.keep {tr : List τ} {x : τ} (h : Since φ ψ tr) (hx : ψ x) : Since φ ψ (tr ++ [x]) := by
  obtain ⟨old, t, mid, rfl, ht, hm⟩ := h
  refine ⟨old, t, mid ++ [x], by simp, ht, ?_⟩
  intro y hy
  rcases List.mem_append.1 hy with hy | hy
  · exact hm y hy
  · rw [List.mem_singleton.1 hy]; exact hx

/-! ## Splits and counts -/

/-- What holds at every split of a list, element by element. -/
theorem splits_cons {P : List τ → τ → Prop} {a : τ} {l : List τ} (h : P [] a)
    (hl : ∀ pre x post, l = pre ++ x :: post → P (a :: pre) x) :
    ∀ pre x post, a :: l = pre ++ x :: post → P pre x := by
  intro pre x post hsplit
  cases pre with
  | nil =>
    obtain ⟨rfl, -⟩ := List.cons.inj hsplit
    exact h
  | cons b pre =>
    obtain ⟨rfl, hrest⟩ := List.cons.inj hsplit
    exact hl pre x post hrest

theorem splits_nil {P : List τ → τ → Prop} : ∀ pre x post, [] = pre ++ x :: post → P pre x := by
  intro pre x post hsplit
  simp at hsplit

/-- Two splits of one list at a first turn with `P` are the same split. -/
theorem first_unique {P : τ → Prop} {l l' m m' : List τ} {x y : τ} (h : l ++ x :: m = l' ++ y :: m')
    (hl : ∀ z ∈ l, ¬ P z) (hx : P x) (hl' : ∀ z ∈ l', ¬ P z) (hy : P y) :
    l = l' ∧ x = y ∧ m = m' := by
  induction l generalizing l' with
  | nil =>
    cases l' with
    | nil => simpa using h
    | cons z l' =>
      obtain ⟨rfl, -⟩ := List.cons.inj h
      exact absurd hx (hl' _ (by simp))
  | cons z l ih =>
    cases l' with
    | nil =>
      obtain ⟨rfl, -⟩ := List.cons.inj h
      exact absurd hy (hl _ (by simp))
    | cons z' l' =>
      obtain ⟨rfl, htail⟩ := List.cons.inj h
      obtain ⟨rfl, hxy⟩ := ih htail (fun w hw => hl w (by simp [hw])) fun w hw => hl' w (by simp [hw])
      exact ⟨rfl, hxy⟩

/-- In a list without repeated keys, two splits at one key are the same split. -/
theorem key_unique {κ β : Type} {l l' m m' : List (κ × β)} {i : κ} {x y : β}
    (h : l ++ (i, x) :: m = l' ++ (i, y) :: m') (hn : ((l ++ (i, x) :: m).map Prod.fst).Nodup) :
    l = l' ∧ x = y ∧ m = m' := by
  have hbefore : ∀ {l m : List (κ × β)} {x : β}, ((l ++ (i, x) :: m).map Prod.fst).Nodup →
      ∀ z ∈ l, ¬ z.1 = i := by
    intro l m x hn z hz hzi
    rw [List.map_append, List.nodup_append] at hn
    exact hn.2.2 z.1 (List.mem_map_of_mem hz) i (by simp) hzi
  have hn' := hn
  rw [h] at hn'
  obtain ⟨hl, hxy, hm⟩ := first_unique (P := fun z => z.1 = i) h (hbefore hn) rfl (hbefore hn') rfl
  exact ⟨hl, (Prod.mk.inj hxy).2, hm⟩

/-- Counting by a relation that no two of the `as` share. -/
theorem length_le_of_unique {α β : Type} {R : α → β → Prop} {as : List α} {bs : List β} (hn : as.Nodup)
    (hex : ∀ a ∈ as, ∃ b ∈ bs, R a b)
    (huniq : ∀ a ∈ as, ∀ a' ∈ as, ∀ b, R a b → R a' b → a = a') : as.length ≤ bs.length := by
  induction as generalizing bs with
  | nil => simp
  | cons a as ih =>
    obtain ⟨b, hb, hab⟩ := hex a (by simp)
    obtain ⟨l, m, rfl⟩ := List.append_of_mem hb
    obtain ⟨hna, hn'⟩ := List.nodup_cons.1 hn
    have hle : as.length ≤ (l ++ m).length := by
      refine ih hn' (fun a' ha' => ?_) fun x hx y hy => huniq x (by simp [hx]) y (by simp [hy])
      obtain ⟨b', hb', hab'⟩ := hex a' (by simp [ha'])
      refine ⟨b', ?_, hab'⟩
      rcases List.mem_append.1 hb' with h | h
      · simp [h]
      rcases List.mem_cons.1 h with rfl | h
      · have haa' := huniq a (by simp) a' (by simp [ha']) b' hab hab'
        subst haa'
        exact absurd ha' hna
      · simp [h]
    simp only [List.length_append, List.length_cons] at hle ⊢
    omega

end

end Runs
