import Mathlib.Data.List.Induction
import Mathlib.Order.MinMax
/-!
# Renewable leases

A lease is opened for a term `W`; every question asked while it runs keeps it running for at
least `G` more. The state is only the end of the lease. `granted_iff_covered` says what the
answers mean in terms of the questions: past the opening term a question is granted exactly
when the earlier questions cover, instant by instant, the time since the term ended.

Only the order and the addition of instants are used, so the clock may be discrete or dense.
-/
namespace Lease

variable {α : Type} [LinearOrder α] [Add α]

inductive Op (α : Type) where
  | start (u : α)
  | ask (t : α)

/-- The clock reading of a call. -/
def Op.time : Op α → α
  | .start u => u
  | .ask t => t

def step (W G : α) : Option α → Op α → Option α
  | _, .start u => some (u + W)
  | none, .ask _ => none
  | some e, .ask t => if t < e then some (max e (t + G)) else none

def run (W G : α) (ops : List (Op α)) : Option α := ops.foldl (step W G) none

/-- The answer to a question at `t`. -/
def Granted (st : Option α) (t : α) : Prop := ∃ e, st = some e ∧ t < e

variable {W G : α}

theorem run_snoc (ops : List (Op α)) (o : Op α) : run W G (ops ++ [o]) = step W G (run W G ops) o := by
  simp [run]

/-- The questions asked since a lease was opened at `u`. -/
def asked (W G u : α) (cs : List α) : Option α := (cs.map Op.ask).foldl (step W G) (some (u + W))

theorem asked_snoc (u : α) (cs : List α) (c : α) :
    asked W G u (cs ++ [c]) = step W G (asked W G u cs) (.ask c) := by
  simp [asked]

theorem run_since_start (old : List (Op α)) (u : α) (cs : List α) :
    run W G (old ++ .start u :: cs.map Op.ask) = asked W G u cs := by
  simp [run, asked, step]

omit [LinearOrder α] [Add α] in
/-- Nothing was opened, or the calls split at the latest opening. -/
theorem latest_start (ops : List (Op α)) :
    (∃ cs : List α, ops = cs.map Op.ask) ∨
      ∃ (old : List (Op α)) (u : α) (cs : List α), ops = old ++ .start u :: cs.map Op.ask := by
  induction ops using List.reverseRecOn with
  | nil => exact Or.inl ⟨[], rfl⟩
  | append_singleton ops o ih =>
    cases o with
    | start u => exact Or.inr ⟨ops, u, [], rfl⟩
    | ask t =>
      rcases ih with ⟨cs, rfl⟩ | ⟨old, u, cs, rfl⟩
      · exact Or.inl ⟨cs ++ [t], by simp⟩
      · exact Or.inr ⟨old, u, cs ++ [t], by simp⟩

theorem run_asks (cs : List α) : run W G (cs.map Op.ask) = none := by
  induction cs using List.reverseRecOn with
  | nil => rfl
  | append_singleton cs c ih => rw [List.map_append, List.map_singleton, run_snoc, ih]; rfl

/-- The end of a running lease: the opening term or some question's grace, whichever is last. -/
theorem asked_end {u e : α} (cs : List α) (h : asked W G u cs = some e) :
    u + W ≤ e ∧ (∀ c ∈ cs, c + G ≤ e) ∧ (e = u + W ∨ ∃ c ∈ cs, e = c + G) := by
  induction cs using List.reverseRecOn generalizing e with
  | nil => cases h; exact ⟨le_refl _, by simp, Or.inl rfl⟩
  | append_singleton cs c ih =>
    rw [asked_snoc] at h
    cases he : asked W G u cs with
    | none => rw [he] at h; cases h
    | some e' =>
      obtain ⟨h1, h2, h3⟩ := ih he
      simp only [he, step] at h
      split at h
      · cases h
        refine ⟨le_trans h1 (le_max_left _ _), fun x hx => ?_, ?_⟩
        · rcases List.mem_append.1 hx with hx | hx
          · exact le_trans (h2 x hx) (le_max_left _ _)
          · rw [List.mem_singleton.1 hx]; exact le_max_right _ _
        · rcases max_choice e' (c + G) with hm | hm
          · rw [hm]
            rcases h3 with h3 | ⟨x, hx, h3⟩
            · exact Or.inl h3
            · exact Or.inr ⟨x, by simp [hx], h3⟩
          · exact Or.inr ⟨c, by simp, hm⟩
      · cases h

/-- Every instant from the end of the term to `t` lies in the grace of an earlier question. -/
def Covered (W G u : α) (cs : List α) (t : α) : Prop :=
  ∀ s, u + W ≤ s → s ≤ t → ∃ c ∈ cs, c < s ∧ s < c + G

/-- **What a lease grants.** With questions in time order, a question at `t` is granted exactly
when the questions since the opening cover the time since its term ended. -/
theorem granted_iff_covered {u : α} (cs : List α) {t : α} (hs : (cs ++ [t]).Pairwise (· ≤ ·)) :
    Granted (asked W G u cs) t ↔ Covered W G u cs t := by
  induction cs using List.reverseRecOn generalizing t with
  | nil =>
    constructor
    · rintro ⟨e, he, ht⟩ s h1 h2
      cases he; exact absurd (lt_of_le_of_lt h2 ht) (not_lt.2 h1)
    · intro h
      refine ⟨u + W, rfl, lt_of_not_ge ?_⟩
      intro hge
      obtain ⟨c, hc, -⟩ := h _ (le_refl _) hge
      simp at hc
  | append_singleton cs c ih =>
    obtain ⟨hcs, -, hle⟩ := List.pairwise_append.1 hs
    have hct : c ≤ t := hle c (by simp) t (by simp)
    have hbefore : ∀ x ∈ cs, x ≤ c := fun x hx => (List.pairwise_append.1 hcs).2.2 x hx c (by simp)
    have ih' := ih hcs
    rw [asked_snoc]
    constructor
    · rintro ⟨e, he, ht⟩ s h1 h2
      cases hst : asked W G u cs with
      | none => rw [hst] at he; cases he
      | some e' =>
        simp only [hst, step] at he
        split at he
        · rename_i hce
          cases he
          by_cases hsc : s ≤ c
          · obtain ⟨x, hx, h3, h4⟩ := ih'.1 ⟨e', hst, hce⟩ s h1 hsc
            exact ⟨x, by simp [hx], h3, h4⟩
          by_cases hsg : s < c + G
          · exact ⟨c, by simp, lt_of_not_ge hsc, hsg⟩
          -- past `c`'s own grace the lease still runs on an earlier question's grace
          have hse : s < e' := by
            rcases lt_max_iff.1 ht with h | h
            · exact lt_of_le_of_lt h2 h
            · exact absurd (lt_of_le_of_lt h2 h) hsg
          rcases (asked_end cs hst).2.2 with h | ⟨x, hx, h⟩
          · rw [h] at hse; exact absurd hse (not_lt.2 h1)
          · rw [h] at hse
            exact ⟨x, by simp [hx], lt_of_le_of_lt (hbefore x hx) (lt_of_not_ge hsc), hse⟩
        · cases he
    · intro hcov
      have hc : Covered W G u cs c := by
        intro s h1 h2
        obtain ⟨x, hx, h3, h4⟩ := hcov s h1 (le_trans h2 hct)
        rcases List.mem_append.1 hx with hx | hx
        · exact ⟨x, hx, h3, h4⟩
        · rw [List.mem_singleton.1 hx] at h3; exact absurd h3 (not_lt.2 h2)
      obtain ⟨e, he, hce⟩ := ih'.2 hc
      obtain ⟨h1, h2, -⟩ := asked_end cs he
      refine ⟨max e (c + G), by simp [he, step, hce], lt_of_not_ge ?_⟩
      intro hge
      obtain ⟨x, hx, -, h4⟩ := hcov t (le_trans h1 (le_trans (le_max_left _ _) hge)) (le_refl _)
      refine absurd h4 (not_lt.2 (le_trans ?_ hge))
      rcases List.mem_append.1 hx with hx | hx
      · exact le_trans (h2 x hx) (le_max_left _ _)
      · rw [List.mem_singleton.1 hx]; exact le_max_right _ _

/-- The same over a whole history of openings and questions. -/
theorem granted_iff {ops : List (Op α)} {t : α} (hs : ((ops ++ [Op.ask t]).map Op.time).Pairwise (· ≤ ·)) :
    Granted (run W G ops) t ↔
      ∃ (old : List (Op α)) (u : α) (cs : List α), ops = old ++ .start u :: cs.map Op.ask ∧ Covered W G u cs t := by
  have hsort : ∀ (old : List (Op α)) (u : α) (cs : List α), ops = old ++ .start u :: cs.map Op.ask →
      (cs ++ [t]).Pairwise (· ≤ ·) := by
    rintro old u cs rfl
    have : (cs ++ [t]).Sublist ((old ++ Op.start u :: cs.map Op.ask ++ [Op.ask t]).map Op.time) := by
      simp only [List.map_append, List.map_cons, List.map_map, Function.comp_def, Op.time,
        List.map_id', List.map_nil, List.append_assoc, List.cons_append]
      exact (List.sublist_cons_self _ _).trans (List.sublist_append_right _ _)
    exact hs.sublist this
  constructor
  · intro h
    rcases latest_start ops with ⟨cs, hops⟩ | ⟨old, u, cs, hops⟩
    · obtain ⟨e, he, -⟩ := h
      rw [hops, run_asks] at he; cases he
    · refine ⟨old, u, cs, hops, (granted_iff_covered cs (hsort old u cs hops)).1 ?_⟩
      rwa [hops, run_since_start] at h
  · rintro ⟨old, u, cs, hops, hc⟩
    rw [hops, run_since_start]
    exact (granted_iff_covered cs (hsort old u cs hops)).2 hc

end Lease
