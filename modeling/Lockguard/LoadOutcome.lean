import Lockguard.DriverLoad
/-!
# What loading the driver comes to

`Stage up d s` says what is set up when the flags of `DriverEntry` read `up`. Each `Lg*Initialize` either
succeeds and goes from one stage to the next, or fails and leaves the stage it found; each `Lg*Finalize`
goes back. So a failed load leaves nothing, and a load that succeeds leaves everything.
-/
namespace Lockguard.Load

open Calls Prog

variable {s : System} {α : Type} {Q : α → System → Prop}

theorem wp_next {op : Call} {f : op.Ret → Routine α} (hneeds : op.needs s) (hall : s.AllOrNothing)
    (hnext : ∀ r s', op.post s r s' → (f r).wp contract Q s') : (call op >>= f).wp contract Q s :=
  wp_call.2 ⟨⟨hneeds, fun _ => hall⟩, hnext⟩

theorem wp_last {op : Call} {Q : op.Ret → System → Prop} (hneeds : op.needs s) (hall : s.AllOrNothing)
    (hpost : ∀ r s', op.post s r s' → Q r s') : (call op).wp contract Q s :=
  ⟨⟨hneeds, fun _ => hall⟩, hpost⟩

/-- The system with these statics. -/
def System.withStatics (s : System) (f : Statics → Statics) : System := { s with statics := f s.statics }

theorem updateStatics_wp (hall : s.AllOrNothing) (f : Statics → Statics) :
    (updateStatics f).wp contract (fun _ s' => s' = s.withStatics f) s := by
  refine wp_next trivial hall ?_
  rintro g s ⟨rfl, rfl⟩
  refine wp_last trivial hall ?_
  rintro ⟨⟩ _ rfl
  rfl

/-- A routine that ends with a success in `Q` and with a failure in `F`. -/
def Leads (x : Routine NTSTATUS) (P Q F : System → Prop) : Prop :=
  ∀ s, P s → x.wp contract (fun r s' => if ntSuccess r then Q s' else F s') s

section
variable {P R F : System → Prop}

theorem inTurn_nil : Leads (inTurn []) P P F := fun _ hs => by simpa [inTurn] using hs

theorem inTurn_cons {Q : System → Prop} {x : Routine NTSTATUS} {xs : List (Routine NTSTATUS)} (hx : Leads x P Q F)
    (hxs : Leads (inTurn xs) Q R F) : Leads (inTurn (x :: xs)) P R F := by
  intro s hs
  refine wp_seq (hx s hs) ?_
  intro r s' hr
  cases hok : ntSuccess r with
  | true =>
    simp only [hok, if_true, Bool.not_true, Bool.false_eq_true, if_false] at hr ⊢
    exact hxs s' hr
  | false =>
    simp only [hok, Bool.false_eq_true, if_false, Bool.not_false, if_true] at hr ⊢
    simpa [hok] using hr

end

/-! ## The filter engine -/

/-- The system with a session, and with the filters recorded by their numbers. -/
def System.withSession (s : System) (engine : Nat) (pending : Option Store) (inForce : Store) (ids : List Nat) : System :=
  { s with
    parts := .session engine :: s.parts
    session := some ⟨engine, true, pending, inForce⟩
    statics := { s.statics with gEngine := engine, gFilterIds := ids } }

section
variable (s : System) (engine : Nat) (pending : Option Store) (inForce : Store) (ids : List Nat)

@[simp] theorem withSession_handle : (s.withSession engine pending inForce ids).handle? = some engine := rfl
@[simp] theorem withSession_pending : (s.withSession engine pending inForce ids).pending? = pending := rfl
@[simp] theorem withSession_engine : (s.withSession engine pending inForce ids).statics.gEngine = engine := rfl
@[simp] theorem withSession_ids : (s.withSession engine pending inForce ids).statics.gFilterIds = ids := rfl
@[simp] theorem withSession_onPending (f : Store → Store) : (s.withSession engine pending inForce ids).onPending f =
    s.withSession engine (pending.map f) inForce ids := rfl

end

/-- Until a transaction is committed nothing is in force. -/
theorem quiet_allOrNothing (hp : s.persistent = .none) (engine : Nat) (pending : Option Store) (ids : List Nat) :
    (s.withSession engine pending .none ids).AllOrNothing := by
  left
  simp [System.inForce, System.withSession, hp, Store.none]

/-- A transaction in which these filters have been added. -/
def Adding (s : System) (engine : Nat) (subLayer : Bool) (cs : List LgAddFilterCall) (u : System) : Prop :=
  ∃ fs : List (Nat × FwpmFilter), fs.map Prod.snd = cs.map filterOf ∧
    u = s.withSession engine (some ⟨subLayer, fs⟩) .none (fs.map Prod.fst)

/-- Some of the filters have been added. -/
def Opened (s : System) (engine : Nat) (u : System) : Prop := ∃ subLayer cs, Adding s engine subLayer cs u

section
variable {engine : Nat} {subLayer : Bool}

/-- **One filter.** The second look at the count finds room, as the first one did. -/
theorem lgAddFilter_leads (hp : s.persistent = .none) {cs : List LgAddFilterCall} (c : LgAddFilterCall)
    (hroom : cs.length < lgMaxFilters) :
    Leads (lgAddFilter c) (Adding s engine subLayer cs) (Adding s engine subLayer (cs ++ [c])) (Opened s engine) := by
  rintro _ ⟨fs, hfs, rfl⟩
  have hfree : ∀ pending, ¬ lgMaxFilters ≤
      (s.withSession engine pending .none (fs.map Prod.fst)).statics.gFilterIds.length := by
    intro pending
    have hlength := congrArg List.length hfs
    simp only [withSession_ids, List.length_map] at hlength ⊢
    omega
  have hquiet := quiet_allOrNothing hp engine (some ⟨subLayer, fs⟩) (fs.map Prod.fst)
  refine wp_next trivial hquiet ?_
  rintro g _ ⟨rfl, rfl⟩
  rw [if_neg (hfree _)]
  refine wp_next ⟨rfl, by simp⟩ hquiet ?_
  rintro ⟨status, id⟩ _ hpost
  simp only [Call.post, onSuccess] at hpost
  cases hok : ntSuccess status with
  | false =>
    simp only [hok, Bool.false_eq_true, if_false] at hpost ⊢
    subst hpost
    rw [wp_pure, hok]
    exact ⟨subLayer, cs, fs, hfs, rfl⟩
  | true =>
    simp only [hok, if_true, withSession_onPending, Option.map_some] at hpost ⊢
    subst hpost
    have hquiet' := quiet_allOrNothing hp engine (some ⟨subLayer, fs ++ [(id, filterOf c)]⟩) (fs.map Prod.fst)
    refine wp_next trivial hquiet' ?_
    rintro g _ ⟨rfl, rfl⟩
    rw [if_neg (hfree _)]
    refine wp_seq (updateStatics_wp hquiet' _) ?_
    rintro ⟨⟩ _ rfl
    rw [wp_pure, if_pos hok]
    refine ⟨fs ++ [(id, filterOf c)], ?_, ?_⟩
    · rw [List.map_append, List.map_append, hfs]
      rfl
    · rw [List.map_append]
      rfl

/-- A loop over some filters. -/
theorem addFilters_leads (hp : s.persistent = .none) (more : List LgAddFilterCall) :
    ∀ {cs : List LgAddFilterCall}, cs.length + more.length ≤ lgMaxFilters →
      Leads (inTurn (more.map lgAddFilter)) (Adding s engine subLayer cs) (Adding s engine subLayer (cs ++ more))
        (Opened s engine) := by
  induction more with
  | nil =>
    intro cs _
    rw [List.append_nil]
    intro u hu
    simpa [inTurn] using hu
  | cons c more ih =>
    intro cs hroom
    rw [List.length_cons] at hroom
    refine inTurn_cons (lgAddFilter_leads hp c (by omega)) ?_
    have hshorter : (cs ++ [c]).length + more.length ≤ lgMaxFilters := by
      rw [List.length_append, List.length_singleton]
      omega
    have hrest := ih hshorter
    rwa [List.append_assoc] at hrest

end

/-- What `LgWfpInitialize` ends with. -/
def Filtering (s : System) (engine : Nat) (u : System) : Prop :=
  ∃ fs : List (Nat × FwpmFilter), fs.map Prod.snd = wfpFilters.map filterOf ∧
    u = s.withSession engine none ⟨true, fs⟩ (fs.map Prod.fst)

theorem subLayerAdd_leads (hp : s.persistent = .none) (engine : Nat) :
    Leads (call (.fwpmSubLayerAdd engine)) (Adding s engine false []) (Adding s engine true []) (Opened s engine) := by
  rintro _ ⟨fs, hfs, rfl⟩
  refine wp_last ⟨rfl, by simp⟩ (quiet_allOrNothing hp _ _ _) ?_
  rintro status _ hpost
  simp only [Call.post, onSuccess] at hpost
  subst hpost
  cases hok : ntSuccess status with
  | true => exact ⟨fs, hfs, rfl⟩
  | false => exact ⟨false, [], fs, hfs, rfl⟩

theorem commit_leads (hp : s.persistent = .none) (engine : Nat) :
    Leads (call (.fwpmTransactionCommit engine)) (Adding s engine true wfpFilters) (Filtering s engine) (Opened s engine) := by
  rintro _ ⟨fs, hfs, rfl⟩
  refine wp_last ⟨rfl, by simp⟩ (quiet_allOrNothing hp _ _ _) ?_
  rintro status _ hpost
  simp only [Call.post, onSuccess] at hpost
  subst hpost
  cases hok : ntSuccess status with
  | true => exact ⟨fs, hfs, rfl⟩
  | false => exact ⟨true, wfpFilters, fs, hfs, rfl⟩

/-- **From the sublayer to the commit.** -/
theorem inTransaction_leads (hp : s.persistent = .none) (engine : Nat) :
    Leads (inTransaction engine) (Adding s engine false []) (Filtering s engine) (Opened s engine) := by
  refine inTurn_cons (subLayerAdd_leads hp engine) ?_
  refine inTurn_cons (addFilters_leads hp _ (by decide)) ?_
  refine inTurn_cons (addFilters_leads hp _ (by decide)) ?_
  refine inTurn_cons (addFilters_leads hp _ (by decide)) ?_
  refine inTurn_cons (addFilters_leads hp _ (by decide)) ?_
  refine inTurn_cons (addFilters_leads hp _ (by decide)) ?_
  refine inTurn_cons (lgAddFilter_leads hp _ (by decide)) ?_
  refine inTurn_cons (lgAddFilter_leads hp _ (by decide)) ?_
  refine inTurn_cons (lgAddFilter_leads hp _ (by decide)) ?_
  refine inTurn_cons (lgAddFilter_leads hp _ (by decide)) ?_
  refine inTurn_cons (lgAddFilter_leads hp _ (by decide)) ?_
  refine inTurn_cons (lgAddFilter_leads hp _ (by decide)) ?_
  exact inTurn_cons (commit_leads hp engine) inTurn_nil

/-- No session, and nothing in force. -/
def Closed (s u : System) : Prop := ∃ ids, u = s.withStatics fun g => { g with gEngine := 0, gFilterIds := ids }

/-- Closing the session takes with it what was added in it. -/
theorem closeEngine_wp (hs : s.session = none) {engine : Nat} {pending : Option Store}
    {inForce : Store} {ids : List Nat} {next : Routine α}
    (hnext : next.wp contract Q (s.withStatics fun g => { g with gEngine := engine, gFilterIds := ids })) :
    (do call (.fwpmEngineClose engine); next).wp contract Q (s.withSession engine pending inForce ids) := by
  refine wp_call.2 ⟨⟨⟨rfl, rfl⟩, fun hne => absurd rfl (hne engine)⟩, ?_⟩
  rintro ⟨⟩ _ rfl
  have hclosed : (s.withStatics fun g => { g with gEngine := engine, gFilterIds := ids }) =
      { (s.withSession engine pending inForce ids).takesDown with session := none, persistent := s.persistent } := by
    rw [← hs]
    rfl
  rw [hclosed] at hnext
  exact hnext

theorem empty_allOrNothing (hp : s.persistent = .none) (hs : s.session = none) (f : Statics → Statics) :
    (s.withStatics f).AllOrNothing := by
  left
  simp [System.inForce, System.withStatics, hp, hs, Store.none]

theorem wfpFail_wp (hp : s.persistent = .none) (hs : s.session = none) {engine : Nat} (hengine : engine ≠ 0)
    {pending : Option Store} {ids : List Nat} (inTx : Bool) (hpending : inTx = true → pending ≠ none) (status : NTSTATUS) :
    (wfpFail inTx status).wp contract (fun r u => r = status ∧ Closed s u) (s.withSession engine pending .none ids) := by
  have hclose : ∀ pending, (do
      (if engine ≠ 0 then do
        call (.fwpmEngineClose engine)
        updateStatics fun g => { g with gEngine := 0 }
      else pure () : Routine Unit)
      pure status : Routine NTSTATUS).wp contract (fun r u => r = status ∧ Closed s u)
        (s.withSession engine pending .none ids) := by
    intro pending
    rw [if_pos hengine, wp_bind]
    refine closeEngine_wp hs (wp_mono (updateStatics_wp (empty_allOrNothing hp hs _) _) ?_)
    rintro ⟨⟩ _ rfl
    exact ⟨rfl, ids, rfl⟩
  refine wp_next trivial (quiet_allOrNothing hp _ _ _) ?_
  rintro g _ ⟨rfl, rfl⟩
  cases inTx with
  | false => exact hclose pending
  | true =>
    refine wp_seq (Q := fun _ u => u = s.withSession engine none .none ids) ?_ ?_
    · refine wp_next ⟨rfl, hpending rfl⟩ (quiet_allOrNothing hp _ _ _) ?_
      rintro status _ rfl
      rfl
    · rintro ⟨⟩ _ rfl
      exact hclose none

/-- **`LgWfpInitialize` is all or nothing**: with all the filters in force, or with its session closed. -/
theorem lgWfpInitialize_wp (hp : s.persistent = .none) (hs : s.session = none) (hids : s.statics.gFilterIds = []) :
    lgWfpInitialize.wp contract (fun r u => if ntSuccess r then ∃ engine, engine ≠ 0 ∧ Filtering s engine u
      else Closed s u) s := by
  have hempty := empty_allOrNothing hp hs id
  refine wp_next hs hempty ?_
  rintro ⟨status, engine⟩ _ hpost
  simp only [Call.post] at hpost
  cases hok : ntSuccess status with
  | false =>
    simp only [hok, Bool.false_eq_true, if_false] at hpost
    obtain ⟨rfl, rfl⟩ := hpost
    refine wp_seq (updateStatics_wp hempty _) ?_
    rintro ⟨⟩ _ rfl
    simp only [hok, Bool.not_false, if_true, wp_pure, Bool.false_eq_true, if_false]
    exact ⟨_, rfl⟩
  | true =>
    simp only [hok, if_true] at hpost
    obtain ⟨hengine, rfl⟩ := hpost
    have hquiet : ({ s.setsUp (.session engine) with session := some ⟨engine, true, none, .none⟩ } : System).AllOrNothing := by
      left
      simp [System.inForce, System.setsUp, hp, Store.none]
    refine wp_seq (updateStatics_wp hquiet _) ?_
    rintro ⟨⟩ u rfl
    have hopened : ({ s.setsUp (.session engine) with session := some ⟨engine, true, none, .none⟩ } : System).withStatics
        (fun g => { g with gEngine := engine }) = s.withSession engine none .none [] := by
      simp only [System.withStatics, System.setsUp, System.withSession, ← hids]
    rw [hopened, Bool.not_true, if_neg Bool.false_ne_true]
    have hquiet' := quiet_allOrNothing hp engine none []
    refine wp_next ⟨rfl, rfl⟩ hquiet' ?_
    rintro status' _ hpost
    simp only [Call.post, onSuccess] at hpost
    subst hpost
    cases hok' : ntSuccess status' with
    | false =>
      simp only [Bool.not_false, if_true, Bool.false_eq_true, if_false]
      refine wp_mono (wfpFail_wp hp hs hengine false (by simp) status') ?_
      rintro r u ⟨rfl, hu⟩
      rw [hok']
      exact hu
    | true =>
      simp only [Bool.not_true, Bool.false_eq_true, if_false, if_true]
      refine wp_seq (inTransaction_leads hp engine _ ⟨[], rfl, rfl⟩) ?_
      intro r u hr
      cases hok'' : ntSuccess r with
      | true =>
        simp only [hok'', if_true, Bool.not_true, Bool.false_eq_true, if_false] at hr ⊢
        exact ⟨engine, hengine, hr⟩
      | false =>
        simp only [hok'', Bool.false_eq_true, if_false, Bool.not_false, if_true] at hr ⊢
        obtain ⟨subLayer, cs, fs, -, rfl⟩ := hr
        refine wp_mono (wfpFail_wp hp hs hengine true (by simp) r) ?_
        rintro _ u ⟨rfl, hu⟩
        rw [hok'']
        exact hu

theorem full_allOrNothing (hp : s.persistent = .none) {fs : List (Nat × FwpmFilter)}
    (hfs : fs.map Prod.snd = wfpFilters.map filterOf) (engine : Nat) (pending : Option Store) (subLayer : Bool)
    (ids : List Nat) : (s.withSession engine pending ⟨subLayer, fs⟩ ids).AllOrNothing := by
  right
  simp [System.inForce, System.withSession, hp, Store.none, hfs]

/-- Whichever of the filters are deleted, the others stay in the transaction. -/
theorem deleteFilters_wp (hp : s.persistent = .none) {fs : List (Nat × FwpmFilter)}
    (hfs : fs.map Prod.snd = wfpFilters.map filterOf) (engine : Nat) (ids : List Nat) :
    ∀ (more : List Nat) (st : Store), (deleteFilters engine more).wp contract
      (fun _ u => ∃ st, u = s.withSession engine (some st) ⟨true, fs⟩ ids)
      (s.withSession engine (some st) ⟨true, fs⟩ ids) := by
  intro more
  induction more with
  | nil => exact fun st => ⟨st, rfl⟩
  | cons id more ih =>
    intro st
    refine wp_next ⟨rfl, by simp⟩ (full_allOrNothing hp hfs _ _ _ _) ?_
    rintro status _ hpost
    simp only [Call.post, onSuccess] at hpost
    subst hpost
    cases ntSuccess status with
    | true => exact ih _
    | false => exact ih st

/-- **`LgWfpFinalize` leaves nothing in force**, whatever its calls come to. -/
theorem lgWfpFinalize_wp (hp : s.persistent = .none) (hs : s.session = none) {engine : Nat} (hengine : engine ≠ 0)
    {u : System} (hu : Filtering s engine u) : lgWfpFinalize.wp contract (fun _ u => Closed s u) u := by
  obtain ⟨fs, hfs, rfl⟩ := hu
  have hfull := full_allOrNothing hp hfs engine none true (fs.map Prod.fst)
  refine wp_next trivial hfull ?_
  rintro g _ ⟨rfl, rfl⟩
  rw [if_neg (show (s.withSession engine _ _ _).statics.gEngine ≠ 0 from hengine)]
  have hclose : ∀ pending inForce, (do
      call (.fwpmEngineClose engine)
      updateStatics fun g => { g with gEngine := 0, gFilterIds := [] } : Routine Unit).wp contract
        (fun _ u => Closed s u) (s.withSession engine pending inForce (fs.map Prod.fst)) := by
    intro pending inForce
    refine closeEngine_wp hs (wp_mono (updateStatics_wp (empty_allOrNothing hp hs _) _) ?_)
    rintro ⟨⟩ _ rfl
    exact ⟨[], rfl⟩
  refine wp_next ⟨rfl, rfl⟩ hfull ?_
  rintro status _ hpost
  simp only [Call.post, onSuccess] at hpost
  subst hpost
  refine wp_seq (Q := fun _ u => ∃ pending inForce, u = s.withSession engine pending inForce (fs.map Prod.fst)) ?_ ?_
  · cases hok : ntSuccess status with
    | false => exact ⟨none, ⟨true, fs⟩, rfl⟩
    | true =>
      simp only [if_true]
      refine wp_seq (deleteFilters_wp hp hfs engine _ _ ⟨true, fs⟩) ?_
      rintro ⟨⟩ _ ⟨st, rfl⟩
      refine wp_next ⟨rfl, by simp⟩ (full_allOrNothing hp hfs _ _ _ _) ?_
      rintro status' u hpost
      obtain ⟨st', rfl⟩ : ∃ st', u = s.withSession engine (some st') ⟨true, fs⟩ (fs.map Prod.fst) := by
        simp only [Call.post, onSuccess] at hpost
        rw [hpost]
        cases ntSuccess status' with
        | true => exact ⟨_, rfl⟩
        | false => exact ⟨st, rfl⟩
      refine wp_next ⟨rfl, by simp⟩ (full_allOrNothing hp hfs _ _ _ _) ?_
      rintro status'' _ hpost
      simp only [Call.post, onSuccess] at hpost
      subst hpost
      cases ntSuccess status'' with
      | true => exact ⟨none, st', rfl⟩
      | false => exact ⟨some st', ⟨true, fs⟩, rfl⟩
  · rintro ⟨⟩ _ ⟨pending, inForce, rfl⟩
    exact hclose pending inForce

/-! ## Stages -/

/-- What is set up when the flags read so, the latest first. -/
def Up.parts (up : Up) (g : Statics) : List Part :=
  (if up.obUp then [.obCallbacks g.gObRegHandle] else []) ++ (if up.miniUp then [.filter g.gFilter true] else []) ++
    (if up.procUp then [.processNotify] else []) ++ (if up.regUp then [.registryCallback g.gRegCookie] else []) ++
    (if up.wfpUp then [.session g.gEngine] else []) ++ (if up.symCreated then [.symbolicLink] else []) ++
    (if up.devCreated then [.device g.gDeviceObject] else [])

/-- The engine of a stage: all the filters in force, by the numbers the driver has kept of them, or no
session. -/
def EngineStage (s : System) : Bool → Prop
  | true => s.statics.gEngine ≠ 0 ∧ ∃ fs : List (Nat × FwpmFilter), fs.map Prod.snd = wfpFilters.map filterOf ∧
      s.session = some ⟨s.statics.gEngine, true, none, ⟨true, fs⟩⟩ ∧ s.statics.gFilterIds = fs.map Prod.fst
  | false => s.session = none

structure Stage (up : Up) (d : Driver) (s : System) : Prop where
  dispatchSet : s.dispatchSet = true
  parts : s.parts = up.parts s.statics
  persistent : s.persistent = .none
  engine : EngineStage s up.wfpUp
  registry : up.regUp = true → s.statics.gRegRegistered = true
  process : up.procUp = true → s.statics.gProcNotifyRegistered = true
  filter : up.miniUp = true → s.statics.gFilter ≠ 0
  handles : up.obUp = true → s.statics.gObRegHandle ≠ 0
  driver : s.driver = d

theorem Stage.allOrNothing {up : Up} {d : Driver} (h : Stage up d s) : s.AllOrNothing := by
  have hengine := h.engine
  cases hup : up.wfpUp with
  | true =>
    rw [hup] at hengine
    obtain ⟨-, fs, hfs, hsession, -⟩ := hengine
    right
    simp [System.inForce, h.persistent, hsession, Store.none, hfs]
  | false =>
    rw [hup] at hengine
    left
    simp [System.inForce, h.persistent, show s.session = none from hengine, Store.none]

/-- The flags once the first `n` are set. -/
def level (n : Nat) : Up :=
  ⟨decide (1 ≤ n), decide (2 ≤ n), decide (3 ≤ n), decide (4 ≤ n), decide (5 ≤ n), decide (6 ≤ n), decide (7 ≤ n)⟩

/-! What is in force depends on the sessions only. -/

theorem setsUp_allOrNothing (hall : s.AllOrNothing) (p : Part) : (s.setsUp p).AllOrNothing := hall
theorem takesDown_allOrNothing (hall : s.AllOrNothing) : s.takesDown.AllOrNothing := hall
theorem withStatics_allOrNothing (hall : s.AllOrNothing) (f : Statics → Statics) : (s.withStatics f).AllOrNothing := hall

section
variable {d : Driver}

/-! ### Forward -/

/-- An `Lg*Initialize` goes from one level to the next, or fails and stays. -/
abbrev Advances (n : Nat) (d : Driver) (x : Routine NTSTATUS) : Prop :=
  Leads x (Stage (level n) d) (Stage (level (n + 1)) d) (Stage (level n) d)

/-- The same stage, or the next one, seen in another state of the statics. -/
theorem Stage.of_engine {n m : Nat} {u : System} (h : Stage (level n) d s) (hwfp : (level m).wfpUp = (level n).wfpUp)
    (hdispatch : u.dispatchSet = s.dispatchSet) (hpersistent : u.persistent = s.persistent)
    (hsession : u.session = s.session) (hdriver : u.driver = s.driver) (hengine : u.statics.gEngine = s.statics.gEngine)
    (hids : u.statics.gFilterIds = s.statics.gFilterIds) (hparts : u.parts = (level m).parts u.statics)
    (hregistry : 4 ≤ m → u.statics.gRegRegistered = true) (hprocess : 5 ≤ m → u.statics.gProcNotifyRegistered = true)
    (hfilter : 6 ≤ m → u.statics.gFilter ≠ 0) (hhandles : 7 ≤ m → u.statics.gObRegHandle ≠ 0) : Stage (level m) d u where
  dispatchSet := hdispatch.trans h.dispatchSet
  parts := hparts
  persistent := hpersistent.trans h.persistent
  engine := by
    rw [hwfp]
    have hstage := h.engine
    cases hup : (level n).wfpUp with
    | true =>
      rw [hup] at hstage
      simpa only [EngineStage, hsession, hengine, hids] using hstage
    | false =>
      rw [hup] at hstage
      exact hsession.trans hstage
  registry hup := hregistry (of_decide_eq_true hup)
  process hup := hprocess (of_decide_eq_true hup)
  filter hup := hfilter (of_decide_eq_true hup)
  handles hup := hhandles (of_decide_eq_true hup)
  driver := hdriver.trans h.driver

/-- Before the filters are added. -/
def Fresh (n : Nat) (d : Driver) (s : System) : Prop := Stage (level n) d s ∧ s.statics.gFilterIds = []

theorem createDevice_advances : Leads createDevice (Fresh 0 d) (Fresh 1 d) (Stage (level 0) d) := by
  rintro s ⟨hs, hids⟩
  refine wp_next hs.dispatchSet hs.allOrNothing ?_
  rintro ⟨status, deviceObject⟩ u hpost
  simp only [Call.post, handsOut] at hpost
  cases hok : ntSuccess status with
  | true =>
    simp only [hok, if_true] at hpost
    obtain ⟨-, rfl⟩ := hpost
    refine wp_seq (updateStatics_wp (setsUp_allOrNothing hs.allOrNothing _) _) ?_
    rintro ⟨⟩ _ rfl
    rw [wp_pure, if_pos hok]
    refine ⟨hs.of_engine (m := 1) rfl rfl rfl rfl rfl rfl rfl ?_ nofun nofun nofun nofun, hids⟩
    simp [System.withStatics, System.setsUp, hs.parts, Up.parts, level]
  | false =>
    simp only [hok, Bool.false_eq_true, if_false] at hpost
    obtain ⟨-, rfl⟩ := hpost
    refine wp_seq (updateStatics_wp hs.allOrNothing _) ?_
    rintro ⟨⟩ _ rfl
    rw [wp_pure, hok, if_neg Bool.false_ne_true]
    refine hs.of_engine (m := 0) rfl rfl rfl rfl rfl rfl rfl ?_ nofun nofun nofun nofun
    simp [System.withStatics, hs.parts, Up.parts, level]

theorem symbolicLink_advances : Leads (call .ioCreateSymbolicLink) (Fresh 1 d) (Fresh 2 d) (Stage (level 1) d) := by
  rintro s ⟨hs, hids⟩
  refine wp_last trivial hs.allOrNothing ?_
  rintro status _ hpost
  simp only [Call.post, onSuccess] at hpost
  subst hpost
  cases hok : ntSuccess status with
  | true =>
    refine ⟨hs.of_engine (m := 2) rfl rfl rfl rfl rfl rfl rfl ?_ nofun nofun nofun nofun, hids⟩
    simp [System.setsUp, hs.parts, Up.parts, level]
  | false => exact hs

theorem lgWfpInitialize_advances : Leads lgWfpInitialize (Fresh 2 d) (Stage (level 3) d) (Stage (level 2) d) := by
  rintro s ⟨hs, hids⟩
  have hsession : s.session = none := hs.engine
  refine wp_mono (lgWfpInitialize_wp hs.persistent hsession hids) ?_
  intro r u hr
  cases hok : ntSuccess r with
  | true =>
    simp only [hok, if_true] at hr ⊢
    obtain ⟨engine, hengine, fs, hfs, rfl⟩ := hr
    exact ⟨hs.dispatchSet, by simp [System.withSession, hs.parts, Up.parts, level], hs.persistent,
      ⟨hengine, fs, hfs, rfl, rfl⟩, nofun, nofun, nofun, nofun, hs.driver⟩
  | false =>
    simp only [hok, Bool.false_eq_true, if_false] at hr ⊢
    obtain ⟨ids, rfl⟩ := hr
    exact ⟨hs.dispatchSet, by simp [System.withStatics, hs.parts, Up.parts, level], hs.persistent, hsession,
      nofun, nofun, nofun, nofun, hs.driver⟩

theorem lgRegCbInitialize_advances : Advances 3 d lgRegCbInitialize := by
  intro s hs
  refine wp_next trivial hs.allOrNothing ?_
  rintro ⟨status, cookie⟩ u hpost
  simp only [Call.post, handsOut] at hpost
  cases hok : ntSuccess status with
  | true =>
    simp only [hok, if_true] at hpost ⊢
    obtain ⟨-, rfl⟩ := hpost
    refine wp_seq (updateStatics_wp (setsUp_allOrNothing hs.allOrNothing _) _) ?_
    rintro ⟨⟩ _ rfl
    rw [wp_pure, if_pos hok]
    refine hs.of_engine (m := 4) rfl rfl rfl rfl rfl rfl rfl ?_ (fun _ => rfl) nofun nofun nofun
    simp [System.withStatics, System.setsUp, hs.parts, Up.parts, level]
  | false =>
    simp only [hok, Bool.false_eq_true, if_false] at hpost ⊢
    obtain ⟨-, rfl⟩ := hpost
    show if ntSuccess status then _ else _
    rw [hok, if_neg Bool.false_ne_true]
    exact hs

theorem lgProcNotifyInitialize_advances : Advances 4 d lgProcNotifyInitialize := by
  intro s hs
  refine wp_next nofun hs.allOrNothing ?_
  rintro status u hpost
  simp only [Call.post, onSuccess, Bool.false_eq_true, if_false] at hpost
  subst hpost
  cases hok : ntSuccess status with
  | true =>
    simp only [if_true]
    refine wp_seq (updateStatics_wp (setsUp_allOrNothing hs.allOrNothing _) _) ?_
    rintro ⟨⟩ _ rfl
    rw [wp_pure, if_pos hok]
    refine hs.of_engine (m := 5) rfl rfl rfl rfl rfl rfl rfl ?_ (fun _ => hs.registry rfl) (fun _ => rfl) nofun nofun
    simp [System.withStatics, System.setsUp, hs.parts, Up.parts, level]
  | false =>
    show if ntSuccess status then _ else _
    rw [hok, if_neg Bool.false_ne_true]
    exact hs

theorem lgMiniFilterInitialize_advances : Advances 5 d lgMiniFilterInitialize := by
  intro s hs
  refine wp_next trivial hs.allOrNothing ?_
  rintro ⟨status, filter⟩ u hpost
  simp only [Call.post, handsOut] at hpost
  have hkeeps : ∀ f, (s.withStatics fun g => { g with gFilter := f }).parts = (level 5).parts
      (s.withStatics fun g => { g with gFilter := f }).statics := by
    intro f
    simp [System.withStatics, hs.parts, Up.parts, level]
  have hstays : ∀ f, Stage (level 5) d (s.withStatics fun g => { g with gFilter := f }) := fun f =>
    hs.of_engine rfl rfl rfl rfl rfl rfl rfl (hkeeps f) (fun _ => hs.registry rfl) (fun _ => hs.process rfl)
      (fun h => absurd h (by decide)) (fun h => absurd h (by decide))
  cases hok : ntSuccess status with
  | false =>
    simp only [hok, Bool.false_eq_true, if_false] at hpost
    obtain ⟨-, rfl⟩ := hpost
    refine wp_seq (updateStatics_wp hs.allOrNothing _) ?_
    rintro ⟨⟩ _ rfl
    simp only [hok, Bool.not_false, if_true, wp_pure, Bool.false_eq_true, if_false]
    exact hstays _
  | true =>
    simp only [hok, if_true] at hpost
    obtain ⟨hfilter, rfl⟩ := hpost
    have hall := setsUp_allOrNothing hs.allOrNothing (.filter filter false)
    refine wp_seq (updateStatics_wp hall _) ?_
    rintro ⟨⟩ _ rfl
    simp only [Bool.not_true, Bool.false_eq_true, if_false]
    refine wp_next rfl (withStatics_allOrNothing hall _) ?_
    rintro started _ hpost
    simp only [Call.post, onSuccess] at hpost
    subst hpost
    cases hok' : ntSuccess started with
    | true =>
      simp only [Bool.not_true, Bool.false_eq_true, if_false, if_true]
      show if ntSuccess started then _ else _
      rw [if_pos hok']
      refine hs.of_engine (m := 6) rfl rfl rfl rfl rfl rfl rfl ?_ (fun _ => hs.registry rfl) (fun _ => hs.process rfl)
        (fun _ => hfilter) (fun h => absurd h (by decide))
      simp [System.withStatics, System.setsUp, System.takesDown, hs.parts, Up.parts, level]
    | false =>
      simp only [Bool.not_false, if_true, Bool.false_eq_true, if_false, wp_bind]
      refine wp_last ⟨_, rfl⟩ (withStatics_allOrNothing hall _) ?_
      rintro ⟨⟩ _ rfl
      refine wp_mono (updateStatics_wp (takesDown_allOrNothing (withStatics_allOrNothing hall _)) _) ?_
      rintro ⟨⟩ _ rfl
      rw [wp_pure, hok', if_neg Bool.false_ne_true]
      exact hstays 0

theorem lgObCallbacksInitialize_advances : Advances 6 d lgObCallbacksInitialize := by
  intro s hs
  refine wp_next trivial hs.allOrNothing ?_
  rintro ⟨status, handle⟩ u hpost
  simp only [Call.post, handsOut] at hpost
  cases hok : ntSuccess status with
  | true =>
    simp only [hok, if_true] at hpost
    obtain ⟨hhandle, rfl⟩ := hpost
    refine wp_seq (updateStatics_wp (setsUp_allOrNothing hs.allOrNothing _) _) ?_
    rintro ⟨⟩ _ rfl
    rw [wp_pure, if_pos hok]
    refine hs.of_engine (m := 7) rfl rfl rfl rfl rfl rfl rfl ?_ (fun _ => hs.registry rfl) (fun _ => hs.process rfl)
      (fun _ => hs.filter rfl) (fun _ => hhandle)
    simp [System.withStatics, System.setsUp, hs.parts, Up.parts, level]
  | false =>
    simp only [hok, Bool.false_eq_true, if_false] at hpost
    obtain ⟨-, rfl⟩ := hpost
    refine wp_seq (updateStatics_wp hs.allOrNothing _) ?_
    rintro ⟨⟩ _ rfl
    rw [wp_pure, hok, if_neg Bool.false_ne_true]
    refine hs.of_engine (m := 6) rfl rfl rfl rfl rfl rfl rfl ?_ (fun _ => hs.registry rfl) (fun _ => hs.process rfl)
      (fun _ => hs.filter rfl) nofun
    simp [System.withStatics, hs.parts, Up.parts, level]

/-! ### Back -/

/-- An `Lg*Finalize` goes back to the level before. -/
def Retreats (n : Nat) (d : Driver) (x : Routine Unit) : Prop :=
  ∀ s, Stage (level (n + 1)) d s → x.wp contract (fun _ u => Stage (level n) d u) s

theorem deleteDevice_retreats : Retreats 0 d (do let g ← call .getStatics; call (.ioDeleteDevice g.gDeviceObject)) := by
  intro s hs
  refine wp_next trivial hs.allOrNothing ?_
  rintro g s ⟨rfl, rfl⟩
  refine wp_last (by rw [Call.needs, hs.parts]; rfl) hs.allOrNothing ?_
  rintro ⟨⟩ _ rfl
  refine hs.of_engine (m := 0) rfl rfl rfl rfl rfl rfl rfl ?_ nofun nofun nofun nofun
  simp [System.takesDown, hs.parts, Up.parts, level]

theorem deleteSymbolicLink_retreats : Retreats 1 d (call .ioDeleteSymbolicLink) := by
  intro s hs
  refine wp_last (by rw [Call.needs, hs.parts]; rfl) hs.allOrNothing ?_
  rintro ⟨⟩ _ rfl
  refine hs.of_engine (m := 1) rfl rfl rfl rfl rfl rfl rfl ?_ nofun nofun nofun nofun
  simp [System.takesDown, hs.parts, Up.parts, level]

theorem lgWfpFinalize_retreats : Retreats 2 d lgWfpFinalize := by
  intro s hs
  obtain ⟨hengine, fs, hfs, hsession, hids⟩ := hs.engine
  have hparts : s.parts = .session s.statics.gEngine :: (level 2).parts s.statics := by
    simp [hs.parts, Up.parts, level]
  have hfiltering : Filtering { s with parts := (level 2).parts s.statics, session := none } s.statics.gEngine s := by
    refine ⟨fs, hfs, ?_⟩
    simp only [System.withSession, ← hparts, ← hsession, ← hids]
  refine wp_mono (lgWfpFinalize_wp (s := { s with parts := (level 2).parts s.statics, session := none })
    hs.persistent rfl hengine hfiltering) ?_
  rintro ⟨⟩ _ ⟨ids, rfl⟩
  exact ⟨hs.dispatchSet, by simp [System.withStatics, Up.parts, level], hs.persistent, rfl, nofun, nofun, nofun, nofun,
    hs.driver⟩

theorem lgRegCbFinalize_retreats : Retreats 3 d lgRegCbFinalize := by
  intro s hs
  refine wp_next trivial hs.allOrNothing ?_
  rintro g s ⟨rfl, rfl⟩
  rw [if_pos (hs.registry rfl)]
  refine wp_next (by rw [Call.needs, hs.parts]; rfl) hs.allOrNothing ?_
  rintro ⟨⟩ _ rfl
  refine wp_mono (updateStatics_wp (takesDown_allOrNothing hs.allOrNothing) _) ?_
  rintro ⟨⟩ _ rfl
  refine hs.of_engine (m := 3) rfl rfl rfl rfl rfl rfl rfl ?_ nofun nofun nofun nofun
  simp [System.withStatics, System.takesDown, hs.parts, Up.parts, level]

theorem lgProcNotifyFinalize_retreats : Retreats 4 d lgProcNotifyFinalize := by
  intro s hs
  refine wp_next trivial hs.allOrNothing ?_
  rintro g s ⟨rfl, rfl⟩
  rw [if_pos (hs.process rfl)]
  refine wp_next (fun _ => by rw [hs.parts]; rfl) hs.allOrNothing ?_
  rintro status _ rfl
  refine wp_mono (updateStatics_wp (takesDown_allOrNothing hs.allOrNothing) _) ?_
  rintro ⟨⟩ _ rfl
  refine hs.of_engine (m := 4) rfl rfl rfl rfl rfl rfl rfl ?_ (fun _ => hs.registry rfl) nofun nofun nofun
  simp [System.withStatics, System.takesDown, hs.parts, Up.parts, level]

theorem lgMiniFilterFinalize_retreats : Retreats 5 d lgMiniFilterFinalize := by
  intro s hs
  refine wp_next trivial hs.allOrNothing ?_
  rintro g s ⟨rfl, rfl⟩
  rw [if_pos (hs.filter rfl)]
  refine wp_next ⟨true, by rw [hs.parts]; rfl⟩ hs.allOrNothing ?_
  rintro ⟨⟩ _ rfl
  refine wp_mono (updateStatics_wp (takesDown_allOrNothing hs.allOrNothing) _) ?_
  rintro ⟨⟩ _ rfl
  refine hs.of_engine (m := 5) rfl rfl rfl rfl rfl rfl rfl ?_ (fun _ => hs.registry rfl) (fun _ => hs.process rfl) nofun nofun
  simp [System.withStatics, System.takesDown, hs.parts, Up.parts, level]

theorem lgObCallbacksFinalize_retreats : Retreats 6 d lgObCallbacksFinalize := by
  intro s hs
  refine wp_next trivial hs.allOrNothing ?_
  rintro g s ⟨rfl, rfl⟩
  rw [if_pos (hs.handles rfl)]
  refine wp_next (by rw [Call.needs, hs.parts]; rfl) hs.allOrNothing ?_
  rintro ⟨⟩ _ rfl
  refine wp_mono (updateStatics_wp (takesDown_allOrNothing hs.allOrNothing) _) ?_
  rintro ⟨⟩ _ rfl
  refine hs.of_engine (m := 6) rfl rfl rfl rfl rfl rfl rfl ?_ (fun _ => hs.registry rfl) (fun _ => hs.process rfl)
    (fun _ => hs.filter rfl) nofun
  simp [System.withStatics, System.takesDown, hs.parts, Up.parts, level]

/-- One line of `fail:`, at level `n`. -/
theorem undo_wp {n k : Nat} {x : Routine Unit} (hx : Retreats k d x) (hs : Stage (level (min n (k + 1))) d s)
    {next : Routine α} (hnext : ∀ u, Stage (level (min n k)) d u → next.wp contract Q u) :
    (do (if decide (k + 1 ≤ n) then x else pure () : Routine Unit); next).wp contract Q s := by
  by_cases hup : k + 1 ≤ n
  · rw [Nat.min_eq_right hup] at hs
    rw [if_pos (decide_eq_true hup)]
    refine wp_seq (hx s hs) fun _ u hu => hnext u ?_
    rwa [Nat.min_eq_right (Nat.le_of_succ_le hup)]
  · rw [Nat.min_eq_left (by omega)] at hs
    rw [if_neg (by simpa using hup)]
    refine hnext s ?_
    rwa [Nat.min_eq_left (by omega)]

/-- **`fail:` takes down what is up**, at whatever level it is come to. -/
theorem entryFail_wp {n : Nat} (hn : n ≤ 7) (hs : Stage (level n) d s) (status : NTSTATUS) :
    (entryFail (level n) status).wp contract (fun r u => r = status ∧ Stage (level 0) d u) s := by
  rw [← Nat.min_eq_left hn] at hs
  refine undo_wp lgObCallbacksFinalize_retreats hs fun _ hs => ?_
  refine undo_wp lgMiniFilterFinalize_retreats hs fun _ hs => ?_
  refine undo_wp lgProcNotifyFinalize_retreats hs fun _ hs => ?_
  refine undo_wp lgRegCbFinalize_retreats hs fun _ hs => ?_
  refine undo_wp lgWfpFinalize_retreats hs fun _ hs => ?_
  refine undo_wp deleteSymbolicLink_retreats hs fun _ hs => ?_
  refine undo_wp deleteDevice_retreats hs fun _ hs => ?_
  rw [Nat.min_zero] at hs
  exact ⟨rfl, hs⟩

/-- One step of `DriverEntry`, and what it does when it fails. -/
theorem orFail_wp {n : Nat} (hn : n ≤ 7) {P R : System → Prop} {start rest : Routine NTSTATUS}
    {Q : NTSTATUS → System → Prop} (hstart : Leads start P R (Stage (level n) d)) (hs : P s)
    (hfail : ∀ status u, ntSuccess status = false → Stage (level 0) d u → Q status u)
    (hrest : ∀ u, R u → rest.wp contract Q u) : (orFail (level n) start rest).wp contract Q s := by
  refine wp_seq (hstart s hs) ?_
  intro status u hu
  cases hok : ntSuccess status with
  | true =>
    simp only [hok, if_true, Bool.not_true, Bool.false_eq_true, if_false] at hu ⊢
    exact hrest u hu
  | false =>
    simp only [hok, Bool.false_eq_true, if_false, Bool.not_false, if_true] at hu ⊢
    refine wp_mono (entryFail_wp hn hu status) ?_
    rintro _ u ⟨rfl, hu⟩
    exact hfail _ u hok hu

end

/-- The driver's variables at boot. -/
def bootDriver : Driver := ⟨.boot, .boot, .boot, 0, 0⟩

/-- Everything is set up, and the driver is as its state machine starts. -/
def Loaded (u : System) : Prop := ∃ k, Stage (level 7) (Lockguard.driverEntry k) u

/-- Nothing is set up, and nothing is in force. -/
def Unloaded (u : System) : Prop := u.parts = [] ∧ u.session = none ∧ u.inForce = []

theorem Loaded.inForce {u : System} (h : Loaded u) : u.inForce = wfpFilters.map filterOf := by
  obtain ⟨k, hstage⟩ := h
  obtain ⟨-, fs, hfs, hsession, -⟩ := hstage.engine
  simp [System.inForce, hstage.persistent, hsession, Store.none, hfs]

theorem Stage.unloaded {d : Driver} (h : Stage (level 0) d s) : Unloaded s := by
  have hsession : s.session = none := h.engine
  refine ⟨by simp [h.parts, Up.parts, level], hsession, ?_⟩
  simp [System.inForce, h.persistent, hsession, Store.none]

end Lockguard.Load
