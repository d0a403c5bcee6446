import Lockguard.Lib.Runs
import Mathlib.Logic.Function.Basic
/-!
# Interleaved calls

Operations cut into atomic steps, called concurrently over one shared state. A schedule is the
list of the calls that take the next step, so every schedule is an interleaving. When each
operation leaves the shared state alone up to its last step, and that step does what the whole
operation would do at once (`Atomic`), the calls are linearizable in the order in which they
return (`linearized`, `returned_before`).
-/
namespace Interleave

open Runs

/-- How operations run: the phase one starts in, and what its next step does to the shared state,
going on in another phase or returning. -/
structure Program (σ α φ ρ : Type) where
  start : α → φ
  step : α → φ → σ → (φ ⊕ ρ) × σ

structure Config (σ φ ρ ι : Type) where
  shared : σ
  phase : ι → φ ⊕ ρ

section
variable {σ α φ ρ ι : Type} [DecidableEq ι] (m : Program σ α φ ρ) (op : ι → α)

omit [DecidableEq ι] in
/-- No call has taken a step. -/
def init (s : σ) : Config σ φ ρ ι := ⟨s, fun i => .inl (m.start (op i))⟩

/-- Call `i` takes its next step, if it has not returned. -/
def advance (c : Config σ φ ρ ι) (i : ι) : Config σ φ ρ ι :=
  match c.phase i with
  | .inr _ => c
  | .inl p => ⟨(m.step (op i) p c.shared).2, Function.update c.phase i (m.step (op i) p c.shared).1⟩

variable {m} {op} in
theorem advance_running {c : Config σ φ ρ ι} {i : ι} {p : φ} (h : c.phase i = .inl p) :
    advance m op c i =
      ⟨(m.step (op i) p c.shared).2, Function.update c.phase i (m.step (op i) p c.shared).1⟩ := by
  simp [advance, h]

variable {m} {op} in
theorem advance_done {c : Config σ φ ρ ι} {i : ι} {r : ρ} (h : c.phase i = .inr r) :
    advance m op c i = c := by
  simp [advance, h]

variable {m} {op} in
/-- A step of one call leaves the phases of the others alone. -/
theorem advance_other {c : Config σ φ ρ ι} {i j : ι} (h : i ≠ j) : (advance m op c j).phase i = c.phase i := by
  cases hp : c.phase j with
  | inr r => rw [advance_done hp]
  | inl p => simp [advance_running hp, h]

variable {m} {op} in
theorem phase_kept {i : ι} {sch : List ι} (h : i ∉ sch) (c : Config σ φ ρ ι) :
    (final (advance m op) c sch).phase i = c.phase i := by
  induction sch generalizing c with
  | nil => rfl
  | cons j sch ih =>
    rw [List.mem_cons, not_or] at h
    rw [final_cons, ih h.2, advance_other h.1]

/-- What the turn returns, if it is the last of its call. -/
def returned (x : Turn (Config σ φ ρ ι) ι) : Option (ι × ρ) :=
  match x.before.phase x.event with
  | .inr _ => none
  | .inl p => match (m.step (op x.event) p x.before.shared).1 with
    | .inr r => some (x.event, r)
    | .inl _ => none

abbrev trace (s : σ) (sch : List ι) : List (Turn (Config σ φ ρ ι) ι) :=
  turns (advance m op) (init m op s) sch

abbrev after (s : σ) (sch : List ι) : Config σ φ ρ ι := final (advance m op) (init m op s) sch

/-- The calls that have returned and their results, in the order of their returns. -/
def returns (s : σ) (sch : List ι) : List (ι × ρ) := (trace m op s sch).filterMap (returned m op)

variable {m op} {s : σ}

@[simp] theorem after_snoc (sch : List ι) (i : ι) :
    after m op s (sch ++ [i]) = advance m op (after m op s sch) i := by
  simp [after]

/-- **The invariant rule for schedules**: what holds before the first step, and is kept by every step
that meets a condition, holds after each part of a schedule whose steps all meet it. -/
theorem after_inv {I : Config σ φ ρ ι → Prop} {A : Config σ φ ρ ι → ι → Prop} (h0 : I (init m op s))
    (hstep : ∀ c i, I c → A c i → I (advance m op c i)) {sch : List ι}
    (hA : ∀ pre i post, sch = pre ++ i :: post → A (after m op s pre) i) :
    ∀ pre post, sch = pre ++ post → I (after m op s pre) := by
  intro pre
  induction pre using List.reverseRecOn with
  | nil =>
    intro post _
    exact h0
  | append_singleton pre i ih =>
    intro post hsplit
    have hsplit' : sch = pre ++ i :: post := by simp [hsplit]
    rw [after_snoc]
    exact hstep _ _ (ih (i :: post) hsplit') (hA pre i post hsplit')

theorem returns_append (sch sch' : List ι) : returns m op s (sch ++ sch') =
    returns m op s sch ++ (turns (advance m op) (after m op s sch) sch').filterMap (returned m op) := by
  rw [returns, trace, turns_append, List.filterMap_append]
  rfl

theorem returns_snoc (sch : List ι) (i : ι) : returns m op s (sch ++ [i]) =
    returns m op s sch ++ (returned m op ⟨after m op s sch, i⟩).toList := by
  rw [returns_append]
  simp only [turns, List.filterMap_cons, List.filterMap_nil]
  cases returned m op ⟨after m op s sch, i⟩ <;> rfl

variable (m) (op) in
/-- The three things a turn can do: nothing, a step on the way, or the return of its call. -/
theorem advance_cases (c : Config σ φ ρ ι) (i : ι) :
    (∃ r, c.phase i = .inr r ∧ returned m op ⟨c, i⟩ = none ∧ advance m op c i = c) ∨
    (∃ p p' s', c.phase i = .inl p ∧ m.step (op i) p c.shared = (.inl p', s') ∧
      returned m op ⟨c, i⟩ = none ∧ advance m op c i = ⟨s', Function.update c.phase i (.inl p')⟩) ∨
    ∃ p r s', c.phase i = .inl p ∧ m.step (op i) p c.shared = (.inr r, s') ∧
      returned m op ⟨c, i⟩ = some (i, r) ∧ advance m op c i = ⟨s', Function.update c.phase i (.inr r)⟩ := by
  cases hp : c.phase i with
  | inr r => exact Or.inl ⟨r, rfl, by simp [returned, hp], advance_done hp⟩
  | inl p =>
    rcases hs : m.step (op i) p c.shared with ⟨n, s'⟩
    cases n with
    | inl p' =>
      exact Or.inr (Or.inl ⟨p, p', s', rfl, hs, by simp [returned, hp, hs], by simp [advance_running hp, hs]⟩)
    | inr r =>
      exact Or.inr (Or.inr ⟨p, r, s', rfl, hs, by simp [returned, hp, hs], by simp [advance_running hp, hs]⟩)

/-- A call is done exactly when its return is on record. -/
theorem mem_returns_iff (sch : List ι) (i : ι) (r : ρ) :
    (i, r) ∈ returns m op s sch ↔ (after m op s sch).phase i = .inr r := by
  induction sch using List.reverseRecOn with
  | nil => simp [returns, init]
  | append_singleton sch j ih =>
    rw [returns_snoc, after_snoc, List.mem_append, ih]
    rcases advance_cases m op (after m op s sch) j with
      ⟨r', hp, hr, ha⟩ | ⟨p, p', s', hp, -, hr, ha⟩ | ⟨p, r', s', hp, -, hr, ha⟩
    · simp [hr, ha]
    · rw [hr, ha]
      by_cases hij : i = j
      · subst hij; simp [hp]
      · simp [hij]
    · rw [hr, ha]
      by_cases hij : i = j
      · subst hij; simp [hp, eq_comm]
      · simp [hij]

/-- No call returns twice. -/
theorem nodup_returns (sch : List ι) : ((returns m op s sch).map Prod.fst).Nodup := by
  induction sch using List.reverseRecOn with
  | nil => simp [returns]
  | append_singleton sch j ih =>
    rw [returns_snoc, List.map_append]
    rcases advance_cases m op (after m op s sch) j with
      ⟨_, -, hr, -⟩ | ⟨_, _, _, -, -, hr, -⟩ | ⟨p, r, s', hp, -, hr, -⟩
    · simpa [hr] using ih
    · simpa [hr] using ih
    · rw [hr]
      refine List.nodup_append.2 ⟨ih, by simp, ?_⟩
      intro i hi j' hj'
      obtain ⟨⟨_, r'⟩, hmem, rfl⟩ := List.mem_map.1 hi
      rintro rfl
      obtain rfl : _ = j := by simpa using hj'
      rw [mem_returns_iff, hp] at hmem
      cases hmem

/-- Only a call that has taken a step can have returned. -/
theorem scheduled_of_returned {sch : List ι} {i : ι} (h : i ∈ (returns m op s sch).map Prod.fst) :
    i ∈ sch := by
  obtain ⟨⟨_, r⟩, hmem, rfl⟩ := List.mem_map.1 h
  obtain ⟨x, hx, hr⟩ := List.mem_filterMap.1 hmem
  have hxe : x.event ∈ sch := by
    have := List.mem_map_of_mem (f := Turn.event) hx
    rwa [map_event_turns] at this
  unfold returned at hr
  split at hr
  · cases hr
  · split at hr
    · cases hr; exact hxe
    · cases hr

/-- **Real time.** A call that returned before another took its first step stands before it in the
order of returns. -/
theorem returned_before {sch₁ sch₂ : List ι} {i j : ι}
    (hi : i ∈ (returns m op s sch₁).map Prod.fst) (hj : j ∉ sch₁)
    (hj' : j ∈ (returns m op s (sch₁ ++ sch₂)).map Prod.fst) :
    ∃ l₁ l₂, (returns m op s (sch₁ ++ sch₂)).map Prod.fst = l₁ ++ i :: l₂ ∧ j ∈ l₂ := by
  rw [returns_append, List.map_append] at hj' ⊢
  obtain ⟨l₁, l₂, hl⟩ := List.append_of_mem hi
  rw [hl] at hj' ⊢
  refine ⟨l₁, _, List.append_assoc _ _ _, ?_⟩
  rcases List.mem_append.1 hj' with h | h
  · rw [← hl] at h
    exact absurd (scheduled_of_returned h) hj
  · exact List.mem_append_right _ h

/-! ## A call alone -/

variable (m) in
/-- From this phase and state the call, with no step of another in between, returns. -/
inductive Alone (a : α) : φ → σ → ρ → σ → Prop
  | done {p : φ} {s s' : σ} {r : ρ} : m.step a p s = (.inr r, s') → Alone a p s r s'
  | next {p p' : φ} {s s' u : σ} {r : ρ} : m.step a p s = (.inl p', s') → Alone a p' s' r u → Alone a p s r u

/-- Scheduled often enough in a row, it returns, and nothing else does. -/
theorem Alone.scheduled {i : ι} {p : φ} {s s' : σ} {r : ρ} (h : Alone m (op i) p s r s') :
    ∃ n, ∀ c : Config σ φ ρ ι, c.phase i = .inl p → c.shared = s →
      final (advance m op) c (List.replicate n i) = ⟨s', Function.update c.phase i (.inr r)⟩ ∧
      (turns (advance m op) c (List.replicate n i)).filterMap (returned m op) = [(i, r)] := by
  induction h with
  | done hstep =>
    refine ⟨1, fun c hp hs => ⟨?_, ?_⟩⟩
    · rw [List.replicate_one, final_cons, final_nil, advance_running hp, hs, hstep]
    · simp [turns, returned, hp, hs, hstep]
  | @next p p' s s' u r hstep _ ih =>
    obtain ⟨n, hn⟩ := ih
    refine ⟨n + 1, fun c hp hs => ?_⟩
    obtain ⟨hfinal, hreturns⟩ := hn ⟨s', Function.update c.phase i (.inl p')⟩ (by simp) rfl
    rw [List.replicate_succ, final_cons, turns, advance_running hp, hs, hstep]
    refine ⟨by rw [hfinal]; simp, ?_⟩
    rw [List.filterMap_cons_none (by simp [returned, hp, hs, hstep]), hreturns]

/-! ## Linearizability -/

variable (m) in
/-- Only the last step of an operation touches the shared state, and it does what `seq`, the whole
operation at once, would do there. -/
structure Atomic (seq : α → σ → ρ × σ) : Prop where
  quiet : ∀ a p s p' s', m.step a p s = (.inl p', s') → s' = s
  commit : ∀ a p s r s', m.step a p s = (.inr r, s') → seq a s = (r, s')

/-- The results of operations run one at a time. -/
def outcomes (seq : α → σ → ρ × σ) (s : σ) (as : List α) : List ρ :=
  (turns (fun s a => (seq a s).2) s as).map fun x => (seq x.event x.before).1

theorem length_outcomes (seq : α → σ → ρ × σ) (s : σ) (as : List α) : (outcomes seq s as).length = as.length := by
  have hturns := congrArg List.length (map_event_turns (fun s a => (seq a s).2) s as)
  rw [List.length_map] at hturns
  rw [outcomes, List.length_map, hturns]

theorem outcomes_snoc (seq : α → σ → ρ × σ) (s : σ) (as : List α) (a : α) : outcomes seq s (as ++ [a]) =
    outcomes seq s as ++ [(seq a (final (fun s a => (seq a s).2) s as)).1] := by
  rw [outcomes, turns_snoc, List.map_append]
  rfl

variable (op) (s) in
/-- **One at a time.** When every operation run alone is `seq`, operations run one at a time are a schedule. -/
theorem one_at_a_time (seq : α → σ → ρ × σ)
    (h : ∀ a s, Alone m a (m.start a) s (seq a s).1 (seq a s).2) {calls : List ι} (hn : calls.Nodup) :
    ∃ sch, (after m op s sch).shared = final (fun s a => (seq a s).2) s (calls.map op) ∧
      returns m op s sch = calls.zip (outcomes seq s (calls.map op)) ∧ ∀ i, i ∈ sch → i ∈ calls := by
  induction calls using List.reverseRecOn with
  | nil => exact ⟨[], rfl, rfl, fun i hi => hi⟩
  | append_singleton calls i ih =>
    obtain ⟨hn, -, hdisjoint⟩ := List.nodup_append.1 hn
    obtain ⟨sch, hstate, hreturns, hsch⟩ := ih hn
    have hfresh : i ∉ sch := fun hi => hdisjoint i (hsch i hi) i (by simp) rfl
    obtain ⟨n, hrun⟩ := (h (op i) (after m op s sch).shared).scheduled
    obtain ⟨hfinal, hlast⟩ := hrun (after m op s sch) (phase_kept hfresh _) rfl
    refine ⟨sch ++ List.replicate n i, ?_, ?_, ?_⟩
    · rw [after, final_append, show final _ _ sch = after m op s sch from rfl, hfinal, List.map_append, final_append,
        ← hstate]
      rfl
    · rw [returns_append, hlast, hreturns, List.map_append, List.map_cons, List.map_nil, outcomes_snoc, ← hstate,
        List.zip_append (by rw [length_outcomes, List.length_map])]
      rfl
    · intro j hj
      rcases List.mem_append.1 hj with hj | hj
      · exact List.mem_append_left _ (hsch j hj)
      · rw [List.eq_of_mem_replicate hj]
        simp

variable (op) (s) in
/-- **Linearizability.** The operations that have returned, run one at a time in the order of
their returns, leave the same state and give the same results. -/
theorem linearized {seq : α → σ → ρ × σ} (h : Atomic m seq) (sch : List ι) :
    final (fun s a => (seq a s).2) s (((returns m op s sch).map Prod.fst).map op) = (after m op s sch).shared ∧
      outcomes seq s (((returns m op s sch).map Prod.fst).map op) = (returns m op s sch).map Prod.snd := by
  induction sch using List.reverseRecOn with
  | nil => exact ⟨rfl, rfl⟩
  | append_singleton sch j ih =>
    obtain ⟨hstate, hout⟩ := ih
    rw [returns_snoc, after_snoc]
    rcases advance_cases m op (after m op s sch) j with
      ⟨_, -, hr, ha⟩ | ⟨_, _, _, -, hs, hr, ha⟩ | ⟨p, r, s', -, hs, hr, ha⟩
    · rw [hr, ha, Option.toList_none, List.append_nil]
      exact ⟨hstate, hout⟩
    · rw [hr, ha, h.quiet _ _ _ _ _ hs, Option.toList_none, List.append_nil]
      exact ⟨hstate, hout⟩
    · have hc := h.commit _ _ _ _ _ hs
      rw [hr, ha]
      simp only [Option.toList_some, List.map_append, List.map_cons, List.map_nil, outcomes, turns_snoc,
        final_snoc] at hout ⊢
      rw [hstate, hc, hout]
      exact ⟨rfl, rfl⟩

end

end Interleave
