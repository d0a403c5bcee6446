import Lockguard.Driver
import Lockguard.Lib.Interleave
/-!
# The recovery channel under concurrent requests (`lockguard.c:272-363`)

`LgHandleGetNonce` and `LgHandleUnlock` are split at their sections under `gNonceLock`: what goes
before, the section, what comes after. The sections of a run, in their order, are its whole story:
the slot under the lock is what the last of them left (`pending`), and an `UNLOCK` judges, outside
the lock, what its own section found there.
-/
namespace Lockguard

open Runs Interleave

/-- A request with what the kernel answers while it is handled. -/
inductive ChannelOp where
  | getNonce (irp : Irp) (k : Kernel)
  | unlock (irp : Irp) (k : Kernel)

inductive ChannelPhase where
  | start
  | issue (nonce : Bytes32) (issuedAt : SysTime)
  | issued (nonce : Bytes32)
  | take
  | taken (found : Option (Bytes32 × SysTime))

/-- The status, the request buffer and the calls made to the window. -/
abbrev ChannelResult := (NTSTATUS × Irp) × List WindowCall

def channelStep (hmac : Hmac) : ChannelOp → ChannelPhase → Driver →
    (ChannelPhase ⊕ ChannelResult) × Driver
  | .getNonce irp k, .start, d =>
    match getNoncePrepare irp k d with
    | (.error s, d) => (.inr ((s, irp), []), d)
    | (.ok (nonce, now), d) => (.inl (.issue nonce now), d)
  | .getNonce _ _, .issue nonce now, d =>
    (.inl (.issued nonce), { d with nonce := nonceIssue nonce now d.nonce })
  | .getNonce irp _, .issued nonce, d => (.inr ((statusSuccess, getNonceReply nonce irp), []), d)
  | .unlock irp _, .start, d =>
    if irp.inputBufferLength < sizeofUnlockRequest then (.inr ((statusBufferTooSmall, irp), []), d)
    else (.inl .take, d)
  | .unlock _ _, .take, d =>
    (.inl (.taken (nonceTake d.nonce).1), { d with nonce := (nonceTake d.nonce).2 })
  | .unlock irp k, .taken found, d =>
    let r := unlockFinish irp k d (unlockExit hmac found d.recovery irp.unlockRequest k)
    (.inr (r.value, r.calls), r.driver)
  -- no request is ever in another's phase
  | _, p, d => (.inl p, d)

def channel (hmac : Hmac) : Program Driver ChannelOp ChannelPhase ChannelResult where
  start _ := .start
  step := channelStep hmac

abbrev ChannelConfig (ι : Type) := Config Driver ChannelPhase ChannelResult ι

/-! ## Sections -/

inductive Section where
  | issue (nonce : Bytes32) (issuedAt : SysTime)
  | take

/-- What a run of sections leaves under the lock for the next one to find. -/
def pending {ι : Type} (ss : List (ι × Section)) : Option (Bytes32 × SysTime) :=
  match ss.getLast? with
  | some (_, .issue nonce issuedAt) => some (nonce, issuedAt)
  | _ => none

/-- The section a step runs, if any. -/
def stepSection : ChannelOp → ChannelPhase → Option Section
  | .getNonce _ _, .issue nonce issuedAt => some (.issue nonce issuedAt)
  | .unlock _ _, .take => some .take
  | _, _ => none

section
variable {ι : Type} (op : ι → ChannelOp)

/-- The section the turn runs, if any. -/
def sectionOf (x : Turn (ChannelConfig ι) ι) : Option (ι × Section) :=
  match x.before.phase x.event with
  | .inl p => (stepSection (op x.event) p).map fun s => (x.event, s)
  | .inr _ => none

def sections (tr : List (Turn (ChannelConfig ι) ι)) : List (ι × Section) := tr.filterMap (sectionOf op)

theorem sections_snoc (tr : List (Turn (ChannelConfig ι) ι)) (x : Turn (ChannelConfig ι) ι) :
    sections op (tr ++ [x]) = sections op tr ++ (sectionOf op x).toList := by
  rw [sections, List.filterMap_append]
  cases h : sectionOf op x <;> simp [sections, h]

end

@[simp] theorem pending_snoc_issue {ι : Type} (ss : List (ι × Section)) (g : ι) (nonce : Bytes32)
    (issuedAt : SysTime) : pending (ss ++ [(g, .issue nonce issuedAt)]) = some (nonce, issuedAt) := by
  simp [pending]

@[simp] theorem pending_snoc_take {ι : Type} (ss : List (ι × Section)) (i : ι) :
    pending (ss ++ [(i, .take)]) = none := by
  simp [pending]

theorem pending_eq_some {ι : Type} {ss : List (ι × Section)} {nonce : Bytes32} {issuedAt : SysTime} :
    pending ss = some (nonce, issuedAt) ↔ ∃ old g, ss = old ++ [(g, .issue nonce issuedAt)] := by
  rcases List.eq_nil_or_concat' ss with rfl | ⟨old, ⟨g, s⟩, rfl⟩
  · simp [pending]
  · cases s with
    | issue n t =>
      simp only [pending_snoc_issue, Option.some.injEq, Prod.mk.injEq]
      constructor
      · rintro ⟨rfl, rfl⟩
        exact ⟨old, g, rfl⟩
      · rintro ⟨old', g', h⟩
        have hlast := (List.append_inj' h rfl).2
        simp only [List.cons.injEq, Prod.mk.injEq, Section.issue.injEq] at hlast
        exact hlast.1.2
    | take =>
      simp only [pending_snoc_take, reduceCtorEq, false_iff]
      rintro ⟨old', g', h⟩
      have hlast := (List.append_inj' h rfl).2
      simp at hlast

/-! ## What one step does -/

/-- The call has its section, if it will have one, still before it. -/
def Ahead : ChannelPhase ⊕ ChannelResult → Prop
  | .inl .start => True
  | .inl (.issue _ _) => True
  | .inl .take => True
  | _ => False

/-- **A step outside the sections** leaves the nonce slot alone, and takes no call past its
section. -/
theorem channelStep_outside (hmac : Hmac) {a : ChannelOp} {p : ChannelPhase} (d : Driver)
    (h : stepSection a p = none) : (channelStep hmac a p d).2.nonce = d.nonce ∧
      (∀ v, (channelStep hmac a p d).1 = .inl (.taken v) → p = .taken v) ∧
      (Ahead (channelStep hmac a p d).1 → Ahead (.inl p)) := by
  cases a with
  | getNonce irp k =>
    cases p with
    | start =>
      have hn := (getNoncePrepare_window irp k d).2
      refine ⟨?_, ?_, fun _ => trivial⟩
      · simp only [channelStep]
        split <;> rename_i heq <;> rw [heq] at hn <;> exact hn
      · intro v hv
        simp only [channelStep] at hv
        split at hv <;> cases hv
    | issue nonce now => cases h
    | issued nonce => exact ⟨rfl, fun v hv => by simp [channelStep] at hv, fun ha => absurd ha id⟩
    | take => exact ⟨rfl, fun v hv => by simp [channelStep] at hv, id⟩
    | taken found =>
      refine ⟨rfl, ?_, id⟩
      intro v hv
      simpa [channelStep] using hv
  | unlock irp k =>
    cases p with
    | start =>
      refine ⟨?_, ?_, fun _ => trivial⟩
      · simp only [channelStep]
        split <;> rfl
      · intro v hv
        simp only [channelStep] at hv
        split at hv <;> cases hv
    | issue nonce now => exact ⟨rfl, fun v hv => by simp [channelStep] at hv, id⟩
    | issued nonce => exact ⟨rfl, fun v hv => by simp [channelStep] at hv, id⟩
    | take => cases h
    | taken found =>
      refine ⟨(unlockFinish_keeps _ _ _ _).1, ?_, fun ha => absurd ha id⟩
      intro v hv
      simp [channelStep] at hv

/-- **A step that is a section** does the section's work, and the call is past it. -/
theorem channelStep_section (hmac : Hmac) {a : ChannelOp} {p : ChannelPhase} (d : Driver) {s : Section}
    (h : stepSection a p = some s) : Ahead (.inl p) ∧
      ((∃ nonce issuedAt, s = .issue nonce issuedAt ∧ channelStep hmac a p d =
        (.inl (.issued nonce), { d with nonce := nonceIssue nonce issuedAt d.nonce })) ∨
      (s = .take ∧ channelStep hmac a p d =
        (.inl (.taken (nonceTake d.nonce).1), { d with nonce := (nonceTake d.nonce).2 }))) := by
  cases a <;> cases p <;> simp only [stepSection, Option.some.injEq, reduceCtorEq] at h
  · subst h
    exact ⟨trivial, Or.inl ⟨_, _, rfl, rfl⟩⟩
  · subst h
    exact ⟨trivial, Or.inr ⟨rfl, rfl⟩⟩

/-! ## What a run keeps -/

section
variable {hmac : Hmac} {ι : Type} {op : ι → ChannelOp}

/-- The slot, and what every call has found there, are told by the sections run so far. -/
structure ChannelInv (op : ι → ChannelOp) (tr : List (Turn (ChannelConfig ι) ι)) (c : ChannelConfig ι) :
    Prop where
  slot : (nonceTake c.shared.nonce).1 = pending (sections op tr)
  taken : ∀ i v, c.phase i = .inl (.taken v) →
    ∃ old rest, sections op tr = old ++ (i, .take) :: rest ∧ v = pending old
  ahead : ∀ i, Ahead (c.phase i) → i ∉ (sections op tr).map Prod.fst
  nodup : ((sections op tr).map Prod.fst).Nodup

theorem channelInv_boot (hmac : Hmac) (op : ι → ChannelOp) (boot : RecoveryReads) :
    ChannelInv op [] (init (channel hmac) op (driverEntry boot)) where
  slot := rfl
  taken i v h := by simp [init, channel] at h
  ahead i _ := by simp [sections]
  nodup := by simp [sections]

variable [DecidableEq ι] {tr : List (Turn (ChannelConfig ι) ι)} {c : ChannelConfig ι}

/-- A turn of `i` concerns no other call: what is to be shown of it is about `i` alone. -/
theorem channelInv_turn (h : ChannelInv op tr c) {i : ι} {extra : List (ι × Section)} {d : Driver}
    {n : ChannelPhase ⊕ ChannelResult} (hsec : sections op (tr ++ [⟨c, i⟩]) = sections op tr ++ extra)
    (hkeys : ∀ y ∈ extra, y.1 = i) (hslot : (nonceTake d.nonce).1 = pending (sections op tr ++ extra))
    (htaken : ∀ v, n = .inl (.taken v) →
      ∃ old rest, sections op tr ++ extra = old ++ (i, .take) :: rest ∧ v = pending old)
    (hahead : Ahead n → i ∉ (sections op tr ++ extra).map Prod.fst)
    (hnodup : ((sections op tr ++ extra).map Prod.fst).Nodup) :
    ChannelInv op (tr ++ [⟨c, i⟩]) ⟨d, Function.update c.phase i n⟩ := by
  refine ⟨?_, ?_, ?_, ?_⟩
  · rw [hsec]; exact hslot
  · intro j v hj
    rw [hsec]
    by_cases hji : j = i
    · subst hji
      simp only [Function.update_self] at hj
      exact htaken v hj
    · simp only [Function.update_of_ne hji] at hj
      obtain ⟨old, rest, ho, hv⟩ := h.taken j v hj
      exact ⟨old, rest ++ extra, by rw [ho]; simp, hv⟩
  · intro j hj
    rw [hsec]
    by_cases hji : j = i
    · subst hji
      simp only [Function.update_self] at hj
      exact hahead hj
    · simp only [Function.update_of_ne hji] at hj
      rw [List.map_append, List.mem_append, not_or]
      refine ⟨h.ahead j hj, ?_⟩
      intro hmem
      obtain ⟨y, hy, rfl⟩ := List.mem_map.1 hmem
      exact hji (hkeys y hy)
  · rw [hsec]; exact hnodup

theorem channelInv_outside (h : ChannelInv op tr c) {i : ι} {p : ChannelPhase}
    (hp : c.phase i = .inl p) (hs : stepSection (op i) p = none) :
    ChannelInv op (tr ++ [⟨c, i⟩]) (advance (channel hmac) op c i) := by
  obtain ⟨hnonce, htaken, hahead⟩ := channelStep_outside hmac c.shared hs
  have hsec : sections op (tr ++ [⟨c, i⟩]) = sections op tr ++ [] := by
    rw [sections_snoc]
    simp [sectionOf, hp, hs]
  rw [advance_running hp]
  refine channelInv_turn h hsec (by simp) ?_ ?_ ?_ ?_
  · show (nonceTake (channelStep hmac (op i) p c.shared).2.nonce).1 = _
    rw [hnonce, h.slot, List.append_nil]
  · intro v hv
    rw [List.append_nil]
    exact h.taken i v (by rw [hp, htaken v hv])
  · intro ha
    rw [List.append_nil]
    exact h.ahead i (by rw [hp]; exact hahead ha)
  · rw [List.append_nil]
    exact h.nodup

theorem channelInv_section (h : ChannelInv op tr c) {i : ι} {p : ChannelPhase} {s : Section}
    (hp : c.phase i = .inl p) (hs : stepSection (op i) p = some s) :
    ChannelInv op (tr ++ [⟨c, i⟩]) (advance (channel hmac) op c i) := by
  obtain ⟨hahead, hstep⟩ := channelStep_section hmac c.shared hs
  have hsec : sections op (tr ++ [⟨c, i⟩]) = sections op tr ++ [(i, s)] := by
    rw [sections_snoc]
    simp [sectionOf, hp, hs]
  have hnodup : ((sections op tr ++ [(i, s)]).map Prod.fst).Nodup := by
    rw [List.map_append, List.nodup_append]
    refine ⟨h.nodup, by simp, ?_⟩
    rintro j hj j' hj' rfl
    obtain rfl : j = i := by simpa using hj'
    exact h.ahead j (by rw [hp]; exact hahead) hj
  rw [advance_running hp]
  rcases hstep with ⟨nonce, issuedAt, rfl, hstep⟩ | ⟨rfl, hstep⟩
  · simp only [channel, hstep]
    refine channelInv_turn h hsec (by simp) ?_ ?_ (fun ha => absurd ha id) hnodup
    · rw [pending_snoc_issue]; rfl
    · intro v hv
      simp at hv
  · simp only [channel, hstep]
    refine channelInv_turn h hsec (by simp) ?_ ?_ (fun ha => absurd ha id) hnodup
    · rw [pending_snoc_take]
      show (nonceTake (nonceTake c.shared.nonce).2).1 = none
      cases hv : c.shared.nonce.gNonceValid <;> simp [nonceTake, hv]
    · intro v hv
      obtain rfl := ChannelPhase.taken.inj (Sum.inl.inj hv)
      exact ⟨sections op tr, [], rfl, h.slot⟩

theorem channelInv_step (hmac : Hmac) (h : ChannelInv op tr c) (i : ι) :
    ChannelInv op (tr ++ [⟨c, i⟩]) (advance (channel hmac) op c i) := by
  cases hp : c.phase i with
  | inr r =>
    have hsec : sections op (tr ++ [⟨c, i⟩]) = sections op tr := by
      rw [sections_snoc]
      simp [sectionOf, hp]
    rw [advance_done hp]
    exact ⟨by rw [hsec]; exact h.slot, by rw [hsec]; exact h.taken, by rw [hsec]; exact h.ahead,
      by rw [hsec]; exact h.nodup⟩
  | inl p =>
    cases hs : stepSection (op i) p with
    | none => exact channelInv_outside h hp hs
    | some s => exact channelInv_section h hp hs

theorem channelInv_run (hmac : Hmac) (op : ι → ChannelOp) (boot : RecoveryReads) (sch : List ι) :
    ChannelInv op (trace (channel hmac) op (driverEntry boot) sch)
      (after (channel hmac) op (driverEntry boot) sch) :=
  inv _ (channelInv_boot hmac op boot) (fun _ _ i h => channelInv_step hmac h i) sch

end

/-! ## A request run alone -/

section
variable {hmac : Hmac} {ι : Type} [DecidableEq ι] {op : ι → ChannelOp} {irp : Irp} {k : Kernel}

/-- Three steps in a row are the handler. -/
theorem getNonce_alone {c : ChannelConfig ι} {i : ι} (ho : op i = .getNonce irp k)
    (hp : c.phase i = .inl .start) :
    let c' := final (advance (channel hmac) op) c [i, i, i]
    c'.shared = (lgHandleGetNonce irp k c.shared).driver ∧
      c'.phase i = .inr ((lgHandleGetNonce irp k c.shared).value, (lgHandleGetNonce irp k c.shared).calls) := by
  rcases hg : getNoncePrepare irp k c.shared with ⟨s | ⟨nonce, now⟩, d⟩
  · simp [final, advance, channel, channelStep, ho, hp, hg, lgHandleGetNonce]
  · simp [final, advance, channel, channelStep, ho, hp, hg, lgHandleGetNonce]

theorem unlock_alone {c : ChannelConfig ι} {i : ι} (ho : op i = .unlock irp k)
    (hp : c.phase i = .inl .start) :
    let c' := final (advance (channel hmac) op) c [i, i, i]
    c'.shared = (lgHandleUnlock hmac irp k c.shared).driver ∧ c'.phase i =
      .inr ((lgHandleUnlock hmac irp k c.shared).value, (lgHandleUnlock hmac irp k c.shared).calls) := by
  by_cases hlen : irp.inputBufferLength < sizeofUnlockRequest
  · simp [final, advance, channel, channelStep, ho, hp, hlen, lgHandleUnlock]
  · simp [final, advance, channel, channelStep, ho, hp, hlen, lgHandleUnlock]

end

/-! ## When an `UNLOCK` opens the window -/

def WindowCall.isEntered : WindowCall → Bool
  | .entered _ => true
  | .asked _ _ => false

/-- The request entered the permissive window. -/
def opened (r : ChannelResult) : Bool := r.2.any WindowCall.isEntered

section
variable {hmac : Hmac} {ι : Type} {op : ι → ChannelOp}

/-- What a long enough `UNLOCK` returns it judges on what its own section found. -/
theorem unlock_returned {x : Turn (ChannelConfig ι) ι} {irp : Irp} {k : Kernel} {r : ChannelResult}
    (ho : op x.event = .unlock irp k) (hlen : sizeofUnlockRequest ≤ irp.inputBufferLength)
    (hr : returned (channel hmac) op x = some (x.event, r)) :
    ∃ found, x.before.phase x.event = .inl (.taken found) ∧
      (opened r = true ↔ unlockExit hmac found x.before.shared.recovery irp.unlockRequest k = .granted) := by
  have hshort : ¬ irp.inputBufferLength < sizeofUnlockRequest := by omega
  unfold returned at hr
  cases hp : x.before.phase x.event with
  | inr r' => simp [hp] at hr
  | inl p =>
    cases p with
    | taken found =>
      refine ⟨found, rfl, ?_⟩
      simp only [hp, channel, channelStep, ho, Option.some.injEq, Prod.mk.injEq, true_and] at hr
      subst hr
      cases hx : unlockExit hmac found x.before.shared.recovery irp.unlockRequest k <;>
        simp [opened, unlockFinish, WindowCall.isEntered]
    | _ => simp [hp, channel, channelStep, ho, hshort] at hr

/-- Only a long enough `UNLOCK` can have entered the window. -/
theorem opened_unlock {x : Turn (ChannelConfig ι) ι} {r : ChannelResult}
    (hr : returned (channel hmac) op x = some (x.event, r)) (hopen : opened r = true) :
    ∃ irp k found, op x.event = .unlock irp k ∧ x.before.phase x.event = .inl (.taken found) ∧
      unlockExit hmac found x.before.shared.recovery irp.unlockRequest k = .granted := by
  have hquiet : ∀ v : NTSTATUS × Irp, opened (v, []) = false := fun _ => rfl
  unfold returned at hr
  cases hp : x.before.phase x.event with
  | inr r' => simp [hp] at hr
  | inl p =>
    cases ho : op x.event with
    | getNonce irp k =>
      cases p with
      | start =>
        rcases hg : getNoncePrepare irp k x.before.shared with ⟨s | ⟨nonce, now⟩, d⟩ <;>
          simp only [hp, channel, channelStep, ho, hg, Option.some.injEq, Prod.mk.injEq, true_and,
            reduceCtorEq] at hr
        rw [← hr, hquiet] at hopen
        cases hopen
      | issued nonce =>
        simp only [hp, channel, channelStep, ho, Option.some.injEq, Prod.mk.injEq, true_and] at hr
        rw [← hr, hquiet] at hopen
        cases hopen
      | _ => simp [hp, channel, channelStep, ho] at hr
    | unlock irp k =>
      cases p with
      | start =>
        by_cases hlen : irp.inputBufferLength < sizeofUnlockRequest
        · simp only [hp, channel, channelStep, ho, hlen, if_true, Option.some.injEq, Prod.mk.injEq,
            true_and] at hr
          rw [← hr, hquiet] at hopen
          cases hopen
        · simp [hp, channel, channelStep, ho, hlen] at hr
      | taken found =>
        refine ⟨irp, k, found, rfl, rfl, ?_⟩
        simp only [hp, channel, channelStep, ho, Option.some.injEq, Prod.mk.injEq, true_and] at hr
        rw [← hr] at hopen
        cases hx : unlockExit hmac found x.before.shared.recovery irp.unlockRequest k <;>
          simp [hx, opened, unlockFinish, WindowCall.isEntered] at hopen ⊢
      | _ => simp [hp, channel, channelStep, ho] at hr

/-- The section of `i`, an `UNLOCK`, ran right after that of `g`, a `GET_NONCE`. -/
def Follows (ss : List (ι × Section)) (g i : ι) (nonce : Bytes32) (issuedAt : SysTime) : Prop :=
  ∃ old rest, ss = old ++ (g, .issue nonce issuedAt) :: (i, .take) :: rest

theorem Follows.append {ss : List (ι × Section)} {g i : ι} {nonce : Bytes32} {issuedAt : SysTime}
    (h : Follows ss g i nonce issuedAt) (more : List (ι × Section)) :
    Follows (ss ++ more) g i nonce issuedAt := by
  obtain ⟨old, rest, rfl⟩ := h
  exact ⟨old, rest ++ more, by simp⟩

/-- An issuance is followed by one `UNLOCK` at most. -/
theorem follows_unique {ss : List (ι × Section)} (hn : (ss.map Prod.fst).Nodup) {g i j : ι}
    {nonce nonce' : Bytes32} {issuedAt issuedAt' : SysTime} (hi : Follows ss g i nonce issuedAt)
    (hj : Follows ss g j nonce' issuedAt') : i = j := by
  obtain ⟨old, rest, rfl⟩ := hi
  obtain ⟨old', rest', h⟩ := hj
  obtain ⟨-, -, hrest⟩ := key_unique h hn
  exact (Prod.mk.inj (List.cons.inj hrest).1).1

/-- What an `UNLOCK` found is pinned down by the section right before its own. -/
theorem found_iff_follows {ss old rest : List (ι × Section)} {i : ι} {nonce : Bytes32} {issuedAt : SysTime}
    (hn : (ss.map Prod.fst).Nodup) (hs : ss = old ++ (i, .take) :: rest) :
    pending old = some (nonce, issuedAt) ↔ ∃ g, Follows ss g i nonce issuedAt := by
  rw [pending_eq_some]
  constructor
  · rintro ⟨older, g, rfl⟩
    exact ⟨g, older, rest, by rw [hs]; simp⟩
  · rintro ⟨g, older, rest', h⟩
    have h' : old ++ (i, .take) :: rest = (older ++ [(g, .issue nonce issuedAt)]) ++ (i, .take) :: rest' := by
      rw [← hs, h]; simp
    rw [hs] at hn
    obtain ⟨hold, -, -⟩ := key_unique h' hn
    exact ⟨older, g, hold⟩

variable [DecidableEq ι] {boot : RecoveryReads} {sch : List ι}

/-- The invariant where a turn of the run is met. -/
theorem channelInv_at {pre post : List (Turn (ChannelConfig ι) ι)} {x : Turn (ChannelConfig ι) ι}
    (hrun : trace (channel hmac) op (driverEntry boot) sch = pre ++ x :: post) : ChannelInv op pre x.before := by
  obtain ⟨sch₁, sch₂, -, rfl, hb, -⟩ := turns_split _ hrun
  rw [hb]
  exact channelInv_run hmac op boot sch₁

/-- **The exact condition for one request.** -/
theorem unlock_opens {pre post : List (Turn (ChannelConfig ι) ι)} {x : Turn (ChannelConfig ι) ι}
    {irp : Irp} {k : Kernel} {r : ChannelResult}
    (hrun : trace (channel hmac) op (driverEntry boot) sch = pre ++ x :: post)
    (ho : op x.event = .unlock irp k) (hlen : sizeofUnlockRequest ≤ irp.inputBufferLength)
    (hk : k.BcryptSucceeds) (hr : returned (channel hmac) op x = some (x.event, r)) :
    opened r = true ↔ ∃ g nonce issuedAt, Follows (sections op pre) g x.event nonce issuedAt ∧
      k.now.quadPart ≤ issuedAt.quadPart + ticks lgNonceTtlSeconds ∧
      x.before.shared.recovery.loadedVerifier =
        some (hmac irp.unlockRequest.derivedKey.toList lgVerifierLabel) ∧
      irp.unlockRequest.response = hmac irp.unlockRequest.derivedKey.toList nonce.toList := by
  have hinv := channelInv_at hrun
  obtain ⟨found, hp, hopen⟩ := unlock_returned ho hlen hr
  obtain ⟨old, rest, hs, rfl⟩ := hinv.taken _ _ hp
  rw [hopen, unlockExit_granted_iff hk]
  constructor
  · rintro ⟨nonce, issuedAt, hfound, hage, hv, hresp⟩
    obtain ⟨g, hg⟩ := (found_iff_follows hinv.nodup hs).1 hfound
    exact ⟨g, nonce, issuedAt, hg, by omega, hv, hresp⟩
  · rintro ⟨g, nonce, issuedAt, hg, hage, hv, hresp⟩
    exact ⟨nonce, issuedAt, (found_iff_follows hinv.nodup hs).2 ⟨g, hg⟩, by omega, hv, hresp⟩

/-! ## Counting -/

/-- The calls that opened the window, in the order of their returns. -/
def openings (rs : List (ι × ChannelResult)) : List ι := (rs.filter fun p => opened p.2).map Prod.fst

/-- The `GET_NONCE` calls that issued a nonce, in the order of their sections. -/
def issuances (ss : List (ι × Section)) : List ι :=
  ss.filterMap fun
    | (g, .issue _ _) => some g
    | (_, .take) => none

omit [DecidableEq ι] in
theorem Follows.mem_issuances {ss : List (ι × Section)} {g i : ι} {nonce : Bytes32} {issuedAt : SysTime}
    (h : Follows ss g i nonce issuedAt) : g ∈ issuances ss := by
  obtain ⟨old, rest, rfl⟩ := h
  simp [issuances]

omit [DecidableEq ι] in
theorem returned_event {x : Turn (ChannelConfig ι) ι} {i : ι} {r : ChannelResult}
    (h : returned (channel hmac) op x = some (i, r)) : x.event = i := by
  unfold returned at h
  split at h
  · cases h
  · split at h <;> cases h
    rfl

/-- Every opening follows some issuance. -/
theorem opening_follows {i : ι} (hi : i ∈ openings (returns (channel hmac) op (driverEntry boot) sch)) :
    ∃ g nonce issuedAt,
      Follows (sections op (trace (channel hmac) op (driverEntry boot) sch)) g i nonce issuedAt := by
  obtain ⟨⟨_, r⟩, hmem, rfl⟩ := List.mem_map.1 hi
  obtain ⟨hmem, hopen⟩ := List.mem_filter.1 hmem
  obtain ⟨x, hx, hr⟩ := List.mem_filterMap.1 hmem
  obtain rfl := returned_event hr
  obtain ⟨pre, post, hrun⟩ := List.append_of_mem hx
  have hinv := channelInv_at hrun
  obtain ⟨irp, k, found, -, hp, hgranted⟩ := opened_unlock hr hopen
  obtain ⟨old, rest, hs, rfl⟩ := hinv.taken _ _ hp
  obtain ⟨nonce, issuedAt, hfound, -⟩ := unlockExit_granted hgranted
  obtain ⟨g, hg⟩ := (found_iff_follows hinv.nodup hs).1 hfound
  refine ⟨g, nonce, issuedAt, ?_⟩
  rw [hrun, sections, List.filterMap_append]
  exact hg.append _

/-- **What an `UNLOCK` needs, exactly.** With each handler split at its section under the nonce lock,
and whatever the interleaving, a long enough `UNLOCK` of key `K` opens the window iff the section
before its own was that of a `GET_NONCE` whose nonce is at most 60 s old and answered by its
response, and `K` is the key of the loaded verifier. An issued nonce opens the window at most once,
and there are no more openings than nonces issued. -/
theorem unlock_opens_exactly (hmac : Hmac) (op : ι → ChannelOp) (boot : RecoveryReads) (sch : List ι) :
    (∀ pre x post irp k r, trace (channel hmac) op (driverEntry boot) sch = pre ++ x :: post →
      op x.event = .unlock irp k → sizeofUnlockRequest ≤ irp.inputBufferLength → k.BcryptSucceeds →
      returned (channel hmac) op x = some (x.event, r) →
      (opened r = true ↔ ∃ g nonce issuedAt, Follows (sections op pre) g x.event nonce issuedAt ∧
        k.now.quadPart ≤ issuedAt.quadPart + ticks lgNonceTtlSeconds ∧
        x.before.shared.recovery.loadedVerifier =
          some (hmac irp.unlockRequest.derivedKey.toList lgVerifierLabel) ∧
        irp.unlockRequest.response = hmac irp.unlockRequest.derivedKey.toList nonce.toList)) ∧
    let ss := sections op (trace (channel hmac) op (driverEntry boot) sch)
    let os := openings (returns (channel hmac) op (driverEntry boot) sch)
    (∀ i ∈ os, ∃ g nonce issuedAt, Follows ss g i nonce issuedAt) ∧
    (∀ g i j nonce issuedAt nonce' issuedAt', Follows ss g i nonce issuedAt →
      Follows ss g j nonce' issuedAt' → i = j) ∧
    os.Nodup ∧ os.length ≤ (issuances ss).length := by
  have hn := (channelInv_run hmac op boot sch).nodup
  have hos : (openings (returns (channel hmac) op (driverEntry boot) sch)).Nodup :=
    (nodup_returns sch).sublist (List.filter_sublist.map _)
  refine ⟨fun pre x post irp k r hrun ho hlen hk hr => unlock_opens hrun ho hlen hk hr,
    fun i hi => opening_follows hi, fun g i j _ _ _ _ hi hj => follows_unique hn hi hj, hos, ?_⟩
  refine length_le_of_unique (R := fun i g => ∃ nonce issuedAt,
    Follows (sections op (trace (channel hmac) op (driverEntry boot) sch)) g i nonce issuedAt) hos ?_ ?_
  · intro i hi
    obtain ⟨g, nonce, issuedAt, hg⟩ := opening_follows hi
    exact ⟨g, hg.mem_issuances, nonce, issuedAt, hg⟩
  · rintro i - j - g ⟨_, _, hi⟩ ⟨_, _, hj⟩
    exact follows_unique hn hi hj

end

namespace Worked

/-- A client and its exchange: `GET_NONCE`, then `UNLOCK` two seconds later. -/
def exchange : Fin 2 → ChannelOp
  | 0 => .getNonce nonceIrp (kernel (time 0))
  | 1 => .unlock unlockIrp (kernel (time 20))

def exchangeTrace (sch : List (Fin 2)) : List (Turn (ChannelConfig (Fin 2)) (Fin 2)) :=
  trace (channel hmac) exchange (driverEntry reads) sch

end Worked

theorem unlock_opens_exactly_exchange : ∃ pre x post r,
    Worked.exchangeTrace [0, 0, 0, 1, 1, 1] = pre ++ x :: post ∧ x.event = 1 ∧
      returned (channel Worked.hmac) Worked.exchange x = some (x.event, r) ∧ opened r = true := by
  refine ⟨_, _, [], _, turns_snoc _ _ [0, 0, 0, 1, 1] 1, rfl, rfl, ?_⟩
  refine ((unlock_opens_exactly Worked.hmac Worked.exchange Worked.reads [0, 0, 0, 1, 1, 1]).1 _ _ [] _ _ _
    (turns_snoc _ _ [0, 0, 0, 1, 1] 1) rfl (by decide) (by decide +kernel) rfl).2
    ⟨0, Worked.nonce, Worked.time 0, ⟨[], [], rfl⟩, by decide, ?_, ?_⟩
  · decide +kernel
  · decide +kernel

end Lockguard
