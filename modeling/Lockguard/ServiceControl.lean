import Lockguard.Lib.Runs
/-!
# The control handler and the enforcement loop (`service_windows.go:89-127`, `enforce_windows.go:73-93`)

| here | there |
| --- | --- |
| `ExecPhase`, `execStep`  | the goroutine of `Execute`: what it does next, one operation a step |
| `LoopPhase`, `loopStep`  | the goroutine it starts: `enforceLoop`, then `close(done)` |
| `Event.request`          | the `svc` package hands over a request, taken only at `c := <-r` |
| `Event.tick`             | the ticker fires; `t.C` holds one tick |

A schedule is any list of events; one that its goroutine is not ready for leaves everything as it is.
`execute_lawful` is what holds after each.
-/
namespace Lockguard.Svc

open Runs

/-! ## Types of `golang.org/x/sys/windows/svc` -/

abbrev Cmd := UInt32

def stop : Cmd := 1
def interrogate : Cmd := 4
def shutdown : Cmd := 5

def stopped : UInt32 := 1
def startPending : UInt32 := 2
def stopPending : UInt32 := 3
def running : UInt32 := 4

def acceptStop : UInt32 := 1
def acceptShutdown : UInt32 := 4

structure Status where
  state : UInt32
  accepts : UInt32
deriving DecidableEq

structure ChangeRequest where
  cmd : Cmd
  currentStatus : Status
deriving DecidableEq

/-! ## The two goroutines -/

/-- What `Execute` does next. -/
inductive ExecPhase where
  | starting
  | launching
  | announcing
  | receiving
  | answering (s : Status)
  | shuttingDown
  | closing
  | joining
  | finishing
  | returned (svcSpecificEC : Bool) (exitCode : UInt32)
deriving DecidableEq

/-- Where the other goroutine is; `leaving` is between `return` and `close(done)`. -/
inductive LoopPhase where
  | unstarted
  | enforcing
  | heartbeating
  | selecting
  | leaving
  | ended
deriving DecidableEq

/-- What `Execute` takes from `r` and sends on `status`. -/
inductive Message where
  | received (cmd : Cmd)
  | reported (s : Status)
deriving DecidableEq

structure Service where
  exec : ExecPhase
  loop : LoopPhase
  /-- How often `close(stop)` was done. -/
  closes : Nat
  /-- There is a tick in `t.C`. -/
  tick : Bool
  passes : Nat
  log : List Message

inductive Event where
  | request (c : ChangeRequest)
  | exec
  | loop (takesTick : Bool)
  | tick
deriving DecidableEq

def accepts : UInt32 := acceptShutdown

def started : Service := ⟨.starting, .unstarted, 0, false, 0, []⟩

def Service.report (s : Service) (st : Status) (next : ExecPhase) : Service :=
  { s with exec := next, log := s.log ++ [.reported st] }

/-- The `switch` (`:112-125`). -/
def dispatch (c : ChangeRequest) : ExecPhase :=
  if c.cmd = interrogate then .answering c.currentStatus
  else if c.cmd = shutdown then .shuttingDown
  else if c.cmd = stop then .answering ⟨running, accepts⟩
  else .receiving

def execStep (s : Service) : Service :=
  match s.exec with
  | .starting => s.report ⟨startPending, 0⟩ .launching
  | .launching => { s with exec := .announcing, loop := .enforcing }
  | .announcing => s.report ⟨running, accepts⟩ .receiving
  | .receiving => s
  | .answering st => s.report st .receiving
  | .shuttingDown => s.report ⟨stopPending, 0⟩ .closing
  | .closing => { s with exec := .joining, closes := s.closes + 1 }
  | .joining => if s.loop = .ended then { s with exec := .finishing } else s
  | .finishing => s.report ⟨stopped, 0⟩ (.returned false 0)
  | .returned _ _ => s

/-- `takesTick` is what `select` picks where both its channels are ready. -/
def loopStep (takesTick : Bool) (s : Service) : Service :=
  match s.loop with
  | .unstarted => s
  | .enforcing => { s with loop := .heartbeating, passes := s.passes + 1 }
  | .heartbeating => { s with loop := .selecting }
  | .selecting =>
    if s.tick && (takesTick || s.closes == 0) then { s with loop := .enforcing, tick := false }
    else if s.closes = 0 then s
    else { s with loop := .leaving }
  | .leaving => { s with loop := .ended }
  | .ended => s

def step (s : Service) : Event → Service
  | .request c =>
    if s.exec = .receiving then { s with exec := dispatch c, log := s.log ++ [.received c.cmd] } else s
  | .exec => execStep s
  | .loop takesTick => loopStep takesTick s
  | .tick => if s.loop = .unstarted then s else { s with tick := true }

/-- A request taken carries a status reported before, as the `svc` package keeps the last one it was sent. -/
def Delivers (t : Turn Service Event) : Prop :=
  ∀ c, t.event = .request c → t.before.exec = .receiving → .reported c.currentStatus ∈ t.before.log

def CurrentReported (es : List Event) : Prop := ∀ t ∈ turns step started es, Delivers t

instance (t : Turn Service Event) : Decidable (Delivers t) :=
  match t with
  | ⟨s, .request c⟩ =>
    decidable_of_iff (s.exec = .receiving → .reported c.currentStatus ∈ s.log)
      ⟨fun h c' hc hexec => by cases hc; exact h hexec, fun h => h c rfl⟩
  | ⟨_, .exec⟩ | ⟨_, .loop _⟩ | ⟨_, .tick⟩ => .isTrue (by rintro c ⟨⟩)

instance (es : List Event) : Decidable (CurrentReported es) :=
  inferInstanceAs (Decidable (∀ t ∈ turns step started es, Delivers t))

/-! ## The phases of the two -/

def ExecPhase.launched : ExecPhase → Bool
  | .starting | .launching => false
  | _ => true

/-- A Shutdown was received. -/
def ExecPhase.stopping : ExecPhase → Bool
  | .shuttingDown | .closing | .joining | .finishing | .returned _ _ => true
  | _ => false

def ExecPhase.closed : ExecPhase → Bool
  | .joining | .finishing | .returned _ _ => true
  | _ => false

def ExecPhase.joined : ExecPhase → Bool
  | .finishing | .returned _ _ => true
  | _ => false

def ExecPhase.hasReturned : ExecPhase → Bool
  | .returned _ _ => true
  | _ => false

/-- The enforcement loop has ended, or is about to. -/
def LoopPhase.isOver : LoopPhase → Bool
  | .leaving | .ended => true
  | _ => false

structure PhaseInv (s : Service) : Prop where
  unstarted : s.loop = .unstarted ↔ s.exec.launched = false
  closes : s.closes = s.exec.closed.toNat
  isOver : s.loop.isOver = true → s.exec.closed = true
  joined : s.exec.joined = true → s.loop = .ended

theorem dispatch_phase (c : ChangeRequest) : (dispatch c).launched = true ∧ (dispatch c).closed = false ∧
    (dispatch c).joined = false ∧ (dispatch c).hasReturned = false ∧
    ((dispatch c).stopping = true ↔ c.cmd = shutdown) := by
  have hne : interrogate ≠ shutdown ∧ stop ≠ shutdown := by decide
  unfold dispatch
  split
  · rename_i hcmd
    exact ⟨rfl, rfl, rfl, rfl, by simp [ExecPhase.stopping, hcmd, hne.1]⟩
  · split
    · rename_i hcmd
      exact ⟨rfl, rfl, rfl, rfl, by simp [ExecPhase.stopping, hcmd]⟩
    · rename_i hcmd
      split <;> exact ⟨rfl, rfl, rfl, rfl, by simp [ExecPhase.stopping, hcmd]⟩

theorem phaseInv_started : PhaseInv started := by
  constructor <;> simp [started, ExecPhase.launched, ExecPhase.closed, ExecPhase.joined, LoopPhase.isOver]

theorem phaseInv_exec {s : Service} (h : PhaseInv s) : PhaseInv (execStep s) := by
  obtain ⟨hunstarted, hcloses, hover, hjoined⟩ := h
  cases hexec : s.exec with
  | joining =>
    by_cases hended : s.loop = .ended
    · constructor <;> simp_all [execStep, ExecPhase.launched, ExecPhase.closed, ExecPhase.joined]
    · simp only [execStep, hexec, hended, if_false]
      exact ⟨hexec ▸ hunstarted, hcloses, hover, hjoined⟩
  | _ => constructor <;> simp_all [execStep, Service.report, ExecPhase.launched, ExecPhase.closed, ExecPhase.joined,
      LoopPhase.isOver]

theorem phaseInv_loop {s : Service} (h : PhaseInv s) (takesTick : Bool) : PhaseInv (loopStep takesTick s) := by
  obtain ⟨hunstarted, hcloses, hover, hjoined⟩ := h
  cases hloop : s.loop with
  | selecting =>
    simp only [loopStep, hloop]
    split
    · constructor <;> simp_all [LoopPhase.isOver]
    · split
      · exact ⟨hunstarted, hcloses, hover, hjoined⟩
      · constructor <;> simp_all
  | _ => constructor <;> simp_all [loopStep, LoopPhase.isOver]

theorem phaseInv_step {s : Service} (h : PhaseInv s) (e : Event) : PhaseInv (step s e) := by
  cases e with
  | request c =>
    obtain ⟨hlaunched, hclosed, hjoined, -⟩ := dispatch_phase c
    rw [step]
    split
    · rename_i hexec
      obtain ⟨hunstarted, hcloses, hover, -⟩ := h
      rw [hexec] at hunstarted hcloses hover
      constructor
      · rw [hlaunched]
        exact hunstarted
      · rw [hclosed]
        exact hcloses
      · rw [hclosed]
        exact hover
      · simp [hjoined]
    · exact h
  | exec => exact phaseInv_exec h
  | loop takesTick => exact phaseInv_loop h takesTick
  | tick =>
    rw [step]
    split
    · exact h
    · exact ⟨h.unstarted, h.closes, h.isOver, h.joined⟩

/-! ## What is reported -/

/-- Not the last report, and without `AcceptStop`. -/
def Status.Harmless (st : Status) : Prop := st.state ≠ stopped ∧ st.accepts &&& acceptStop = 0

theorem harmless_running : Status.Harmless ⟨running, accepts⟩ := by unfold Status.Harmless; decide
theorem harmless_startPending : Status.Harmless ⟨startPending, 0⟩ := by unfold Status.Harmless; decide
theorem harmless_stopPending : Status.Harmless ⟨stopPending, 0⟩ := by unfold Status.Harmless; decide

/-- A Stop was answered with Running by the next message, or is just about to be. -/
def StopsAnswered (s : Service) : Prop :=
  ∀ pre post, s.log = pre ++ .received stop :: post →
    post.head? = some (.reported ⟨running, accepts⟩) ∨ (post = [] ∧ s.exec = .answering ⟨running, accepts⟩)

structure LogInv (s : Service) : Prop where
  shutdown_iff : .received shutdown ∈ s.log ↔ s.exec.stopping = true
  reports : ∃ pre, (∀ st, .reported st ∈ pre → st.Harmless) ∧
    s.log = pre ++ if s.exec.hasReturned then [.reported ⟨stopped, 0⟩] else []
  answer : ∀ st, s.exec = .answering st → st.Harmless
  answered : StopsAnswered s

theorem LogInv.harmless {s : Service} (h : LogInv s) (hexec : s.exec.hasReturned = false) {st : Status}
    (hst : .reported st ∈ s.log) : st.Harmless := by
  obtain ⟨pre, hpre, hlog⟩ := h.reports
  rw [hlog, hexec] at hst
  simp only [Bool.false_eq_true, if_false, List.append_nil] at hst
  exact hpre st hst

theorem logInv_started : LogInv started where
  shutdown_iff := by simp [started, ExecPhase.stopping]
  reports := ⟨[], by simp, rfl⟩
  answer := by simp [started]
  answered := by
    intro pre post hlog
    simp [started] at hlog

/-- Of a message added, only it and the last before it can be the Stop in question. -/
theorem stopsAnswered_snoc {s : Service} (h : StopsAnswered s) {x : Message} {exec : ExecPhase}
    (hreport : ∀ st, s.exec = .answering st → x = .reported st)
    (hreceived : x = .received stop → exec = .answering ⟨running, accepts⟩) :
    StopsAnswered { s with exec := exec, log := s.log ++ [x] } := by
  intro pre post hlog
  simp only at hlog ⊢
  rcases List.eq_nil_or_concat post with rfl | ⟨post, y, rfl⟩
  · obtain ⟨-, hx⟩ := List.append_inj' hlog rfl
    right
    exact ⟨rfl, hreceived (List.cons.inj hx).1⟩
  · left
    have hsplit : s.log ++ [x] = (pre ++ .received stop :: post) ++ [y] := by simpa using hlog
    obtain ⟨hold, hx⟩ := List.append_inj' hsplit rfl
    obtain ⟨rfl, -⟩ := List.cons.inj hx
    rcases h pre post hold with hhead | ⟨rfl, hexec⟩
    · rw [List.concat_eq_append, List.head?_append, hhead]
      rfl
    · rw [hreport _ hexec]
      rfl

theorem stopsAnswered_exec {s : Service} (h : StopsAnswered s) (hexec : ∀ st, s.exec ≠ .answering st)
    {s' : Service} (hlog : s'.log = s.log) : StopsAnswered s' := by
  intro pre post hsplit
  rcases h pre post (hlog ▸ hsplit) with hhead | ⟨-, hanswering⟩
  · exact Or.inl hhead
  · exact absurd hanswering (hexec _)

/-- A report that is not the last. -/
theorem logInv_report {s : Service} (h : LogInv s) {st : Status} {next : ExecPhase} (hst : st.Harmless)
    (hexec : ∀ st', s.exec = .answering st' → st = st') (hstopping : next.stopping = s.exec.stopping)
    (hreturned : s.exec.hasReturned = false) (hreturned' : next.hasReturned = false)
    (hanswer : ∀ st', next ≠ .answering st') : LogInv (s.report st next) where
  shutdown_iff := by
    simp only [Service.report, hstopping, ← h.shutdown_iff]
    simp
  reports := by
    refine ⟨s.log ++ [.reported st], ?_, by simp [Service.report, hreturned']⟩
    intro st' hst'
    rcases List.mem_append.1 hst' with hold | hnew
    · exact h.harmless hreturned hold
    · obtain rfl : st' = st := by simpa using hnew
      exact hst
  answer := by
    intro st' hst'
    exact absurd hst' (hanswer st')
  answered := stopsAnswered_snoc h.answered (fun st' hst' => congrArg _ (hexec st' hst')) (by simp)

/-- A step without a message. -/
theorem logInv_silent {s s' : Service} (h : LogInv s) (hlog : s'.log = s.log)
    (hexec : ∀ st, s.exec ≠ .answering st) (hexec' : ∀ st, s'.exec ≠ .answering st)
    (hstopping : s'.exec.stopping = s.exec.stopping) (hreturned : s'.exec.hasReturned = s.exec.hasReturned) :
    LogInv s' where
  shutdown_iff := by rw [hlog, hstopping, h.shutdown_iff]
  reports := by rw [hlog, hreturned]; exact h.reports
  answer := fun st hst => absurd hst (hexec' st)
  answered := stopsAnswered_exec h.answered hexec hlog

theorem logInv_exec {s : Service} (h : LogInv s) : LogInv (execStep s) := by
  cases hexec : s.exec with
  | starting =>
    simp only [execStep, hexec]
    exact logInv_report h harmless_startPending (by simp [hexec]) (by simp [hexec, ExecPhase.stopping])
      (by simp [hexec, ExecPhase.hasReturned]) rfl (by simp)
  | launching =>
    simp only [execStep, hexec]
    exact logInv_silent h rfl (by simp [hexec]) (by simp) (by simp [hexec, ExecPhase.stopping])
      (by simp [hexec, ExecPhase.hasReturned])
  | announcing =>
    simp only [execStep, hexec]
    exact logInv_report h harmless_running (by simp [hexec]) (by simp [hexec, ExecPhase.stopping])
      (by simp [hexec, ExecPhase.hasReturned]) rfl (by simp)
  | receiving =>
    simp only [execStep, hexec]
    exact h
  | answering st =>
    simp only [execStep, hexec]
    exact logInv_report h (h.answer st hexec) (by simp [hexec]) (by simp [hexec, ExecPhase.stopping])
      (by simp [hexec, ExecPhase.hasReturned]) rfl (by simp)
  | shuttingDown =>
    simp only [execStep, hexec]
    exact logInv_report h harmless_stopPending (by simp [hexec]) (by simp [hexec, ExecPhase.stopping])
      (by simp [hexec, ExecPhase.hasReturned]) rfl (by simp)
  | closing =>
    simp only [execStep, hexec]
    exact logInv_silent h rfl (by simp [hexec]) (by simp) (by simp [hexec, ExecPhase.stopping])
      (by simp [hexec, ExecPhase.hasReturned])
  | joining =>
    simp only [execStep, hexec]
    split
    · exact logInv_silent h rfl (by simp [hexec]) (by simp) (by simp [hexec, ExecPhase.stopping])
        (by simp [hexec, ExecPhase.hasReturned])
    · exact h
  | finishing =>
    simp only [execStep, hexec]
    refine ⟨?_, ⟨s.log, fun st => h.harmless (by simp [hexec, ExecPhase.hasReturned]), rfl⟩, by simp [Service.report],
      stopsAnswered_snoc h.answered (by simp [hexec]) (by simp)⟩
    have hstopping := h.shutdown_iff
    rw [hexec] at hstopping
    simpa [Service.report, ExecPhase.stopping] using hstopping
  | returned svcSpecificEC exitCode =>
    simp only [execStep, hexec]
    exact h

theorem loopStep_exec (takesTick : Bool) (s : Service) :
    (loopStep takesTick s).exec = s.exec ∧ (loopStep takesTick s).log = s.log ∧
      (loopStep takesTick s).closes = s.closes := by
  unfold loopStep
  split
  case h_4 =>
    split
    · exact ⟨rfl, rfl, rfl⟩
    · split <;> exact ⟨rfl, rfl, rfl⟩
  all_goals exact ⟨rfl, rfl, rfl⟩

theorem logInv_congr {s s' : Service} (h : LogInv s) (hexec : s'.exec = s.exec) (hlog : s'.log = s.log) :
    LogInv s' where
  shutdown_iff := by rw [hexec, hlog, h.shutdown_iff]
  reports := by rw [hexec, hlog]; exact h.reports
  answer := by rw [hexec]; exact h.answer
  answered := by
    unfold StopsAnswered
    rw [hexec, hlog]
    exact h.answered

theorem logInv_request {s : Service} (h : LogInv s) {c : ChangeRequest} (hexec : s.exec = .receiving)
    (hcurrent : .reported c.currentStatus ∈ s.log) :
    LogInv { s with exec := dispatch c, log := s.log ++ [.received c.cmd] } := by
  obtain ⟨-, -, -, hreturned, hstopping⟩ := dispatch_phase c
  have hopen : s.exec.hasReturned = false := by
    rw [hexec]
    rfl
  refine ⟨?_, ?_, ?_, ?_⟩
  · have hnone : .received shutdown ∉ s.log := by
      rw [h.shutdown_iff, hexec]
      simp [ExecPhase.stopping]
    rw [hstopping]
    simp [hnone, eq_comm]
  · refine ⟨s.log ++ [.received c.cmd], ?_, by simp [hreturned]⟩
    intro st hst
    refine h.harmless hopen ?_
    simpa using hst
  · intro st hst
    simp only [dispatch] at hst
    split at hst
    · cases hst
      exact h.harmless hopen hcurrent
    · split at hst
      · cases hst
      · split at hst
        · cases hst
          exact harmless_running
        · cases hst
  · refine stopsAnswered_snoc h.answered (by simp [hexec]) ?_
    intro hcmd
    obtain hcmd : c.cmd = stop := by simpa using hcmd
    have hne : stop ≠ interrogate ∧ stop ≠ shutdown := by decide
    rw [dispatch, hcmd, if_neg hne.1, if_neg hne.2, if_pos rfl]

theorem logInv_step {s : Service} (h : LogInv s) {e : Event} (hdelivers : Delivers ⟨s, e⟩) : LogInv (step s e) := by
  cases e with
  | request c =>
    rw [step]
    split
    · rename_i hexec
      exact logInv_request h hexec (hdelivers c rfl hexec)
    · exact h
  | exec => exact logInv_exec h
  | loop takesTick =>
    obtain ⟨hexec, hlog, -⟩ := loopStep_exec takesTick s
    exact logInv_congr h hexec hlog
  | tick =>
    rw [step]
    split
    · exact h
    · exact logInv_congr h rfl rfl

/-! ## The loop and what else happens -/

def Event.isLoop : Event → Bool
  | .loop _ | .tick => true
  | _ => false

/-- The loop and its channels are the same. -/
def LoopEq (s s' : Service) : Prop := ∃ exec log, s = { s' with exec := exec, log := log }

/-- The loop has been started and no Shutdown was received. -/
def Service.Enforcing (s : Service) : Prop := s.exec.launched = true ∧ s.exec.stopping = false

theorem loopStep_frame (takesTick : Bool) (s : Service) (exec : ExecPhase) (log : List Message) :
    loopStep takesTick { s with exec := exec, log := log } =
      { loopStep takesTick s with exec := exec, log := log } := by
  cases hloop : s.loop with
  | selecting =>
    simp only [loopStep, hloop]
    split
    · rfl
    · split
      · rw [hloop]
      · rfl
  | _ => simp only [loopStep, hloop]

theorem loopEq_step {s s' : Service} (h : LoopEq s s') {e : Event} (he : e.isLoop = true) :
    LoopEq (step s e) (step s' e) := by
  obtain ⟨exec, log, rfl⟩ := h
  refine ⟨exec, log, ?_⟩
  cases e with
  | request c => cases he
  | exec => cases he
  | loop takesTick => exact loopStep_frame takesTick s' exec log
  | tick =>
    simp only [step]
    split <;> rfl

theorem loopEq_other {s s' : Service} (h : LoopEq s s') (henforcing : s.Enforcing) {e : Event} (he : e.isLoop = false) :
    LoopEq (step s e) s' := by
  obtain ⟨exec, log, rfl⟩ := h
  obtain ⟨hlaunched, hstopping⟩ := henforcing
  cases e with
  | request c =>
    rw [step]
    split <;> exact ⟨_, _, rfl⟩
  | exec =>
    rw [step]
    cases exec with
    | announcing => exact ⟨_, _, rfl⟩
    | receiving => exact ⟨_, _, rfl⟩
    | answering st => exact ⟨_, _, rfl⟩
    | starting => cases hlaunched
    | launching => cases hlaunched
    | _ => cases hstopping
  | loop takesTick => cases he
  | tick => cases he

/-- No Shutdown is among the requests. -/
def Event.isShutdown : Event → Bool
  | .request c => c.cmd == shutdown
  | _ => false

theorem enforcing_step {s : Service} (h : s.Enforcing) {e : Event} (he : e.isShutdown = false) :
    (step s e).Enforcing := by
  obtain ⟨hlaunched, hstopping⟩ := h
  cases e with
  | request c =>
    obtain ⟨hlaunched', -, -, -, hstopping'⟩ := dispatch_phase c
    rw [step]
    split
    · refine ⟨hlaunched', ?_⟩
      have hcmd : ¬ c.cmd = shutdown := by simpa [Event.isShutdown] using he
      simpa using mt hstopping'.1 hcmd
    · exact ⟨hlaunched, hstopping⟩
  | exec =>
    rw [step]
    unfold Service.Enforcing
    cases hexec : s.exec <;> simp_all [execStep, Service.report, ExecPhase.launched, ExecPhase.stopping]
  | loop takesTick =>
    unfold Service.Enforcing
    rw [step, (loopStep_exec takesTick s).1]
    exact ⟨hlaunched, hstopping⟩
  | tick =>
    rw [step]
    split <;> exact ⟨hlaunched, hstopping⟩

/-- **The loop does not notice** what else happens as long as no Shutdown arrives. -/
theorem loopEq_run {s s' : Service} (h : LoopEq s s') (henforcing : s.Enforcing) {es : List Event}
    (hes : ∀ e ∈ es, e.isShutdown = false) :
    LoopEq (final step s es) (final step s' (es.filter Event.isLoop)) := by
  induction es generalizing s s' with
  | nil => exact h
  | cons e es ih =>
    obtain ⟨he, hrest⟩ := List.forall_mem_cons.1 hes
    have hnext := enforcing_step henforcing he
    rw [final_cons]
    cases hown : e.isLoop with
    | true =>
      rw [List.filter_cons_of_pos hown, final_cons]
      exact ih (loopEq_step h hown) hnext hrest
    | false =>
      rw [List.filter_cons_of_neg (by simp [hown])]
      exact ih (loopEq_other h henforcing hown) hnext hrest

/-- A tick, and what the loop needs at most to make another pass, whatever its `select` prefers. -/
def round (first second third : Bool) : List Event := [.tick, .loop first, .loop second, .loop third]

theorem round_passes {s : Service} (hloop : s.loop ≠ .unstarted) (hover : s.loop.isOver = false)
    (hopen : s.closes = 0) (first second third : Bool) :
    s.passes < (final step s (round first second third)).passes := by
  cases hphase : s.loop with
  | unstarted => exact absurd hphase hloop
  | enforcing => simp [round, final, step, loopStep, hphase, hopen]
  | heartbeating => simp [round, final, step, loopStep, hphase, hopen]
  | selecting => simp [round, final, step, loopStep, hphase, hopen]
  | leaving =>
    rw [hphase] at hover
    cases hover
  | ended =>
    rw [hphase] at hover
    cases hover

/-! ## After every schedule -/

structure ExecuteLaw (s : Service) : Prop where
  returns : s.exec.hasReturned = true → .received shutdown ∈ s.log ∧ s.loop = .ended
  stopped_iff : (∃ st, .reported st ∈ s.log ∧ st.state = stopped) ↔ s.exec.hasReturned = true
  stopped_last : ∀ pre st post, s.log = pre ++ .reported st :: post → st.state = stopped → post = []
  stopClosed : s.closes ≤ 1
  accepted : ∀ st, .reported st ∈ s.log → st.accepts &&& acceptStop = 0
  /-- The answer to a Stop is the next message, or what `Execute` sends next. -/
  answered : ∀ pre post, s.log = pre ++ .received stop :: post →
    post.head? = some (.reported ⟨running, accepts⟩) ∨
      (post = [] ∧ (execStep s).log = s.log ++ [.reported ⟨running, accepts⟩])
  /-- Whatever comes in between, the loop makes another pass when it has its turns. -/
  enforcing : .received shutdown ∉ s.log → s.loop.isOver = false ∧ (s.loop ≠ .unstarted →
    ∀ (fs : List Event) (first second third : Bool), (∀ e ∈ fs, e.isShutdown = false) →
      fs.filter Event.isLoop = round first second third → s.passes < (final step s fs).passes)

theorem lawful_of_inv {s : Service} (hphase : PhaseInv s) (hlog : LogInv s) : ExecuteLaw s := by
  obtain ⟨pre, hharmless, heq⟩ := hlog.reports
  have hreport : ∀ st, .reported st ∈ s.log → st.Harmless ∨ (s.exec.hasReturned = true ∧ st = ⟨stopped, 0⟩) := by
    intro st hst
    rw [heq] at hst
    rcases List.mem_append.1 hst with hst | hst
    · exact Or.inl (hharmless st hst)
    · split at hst
      · rename_i hreturned
        exact Or.inr ⟨hreturned, by simpa using hst⟩
      · cases hst
  have hphases : s.exec.hasReturned = true → s.exec.stopping = true ∧ s.exec.joined = true := by
    cases s.exec <;> simp [ExecPhase.hasReturned, ExecPhase.stopping, ExecPhase.joined]
  refine ⟨?_, ?_, ?_, ?_, ?_, ?_, ?_⟩
  · intro hreturned
    obtain ⟨hstopping, hjoined⟩ := hphases hreturned
    exact ⟨hlog.shutdown_iff.2 hstopping, hphase.joined hjoined⟩
  · constructor
    · rintro ⟨st, hst, hstopped⟩
      rcases hreport st hst with hst | ⟨hreturned, -⟩
      · exact absurd hstopped hst.1
      · exact hreturned
    · intro hreturned
      refine ⟨⟨stopped, 0⟩, ?_, rfl⟩
      rw [heq, if_pos hreturned]
      simp
  · intro pre' st post hsplit hstopped
    have hnot : .reported st ∉ pre := fun hst => absurd hstopped (hharmless st hst).1
    rw [hsplit] at heq
    split at heq
    · rcases List.eq_nil_or_concat post with rfl | ⟨post, y, rfl⟩
      · rfl
      · have hlast : (pre' ++ .reported st :: post) ++ [y] = pre ++ [.reported ⟨stopped, 0⟩] := by simpa using heq
        obtain ⟨hpre, -⟩ := List.append_inj' hlast rfl
        refine absurd ?_ hnot
        rw [← hpre]
        simp
    · refine absurd ?_ hnot
      rw [← List.append_nil pre, ← heq]
      simp
  · rw [hphase.closes]
    exact Bool.toNat_le _
  · intro st hst
    rcases hreport st hst with hst | ⟨-, rfl⟩
    · exact hst.2
    · decide
  · intro pre' post hsplit
    rcases hlog.answered pre' post hsplit with hhead | ⟨hnil, hexec⟩
    · exact Or.inl hhead
    · right
      refine ⟨hnil, ?_⟩
      rw [execStep, hexec]
      rfl
  · intro hnone
    have hstopping : s.exec.stopping = false := by
      rw [hlog.shutdown_iff] at hnone
      simpa using hnone
    have hclosed : s.exec.closed = false := by
      cases hexec : s.exec <;> simp_all [ExecPhase.stopping, ExecPhase.closed]
    have hover : s.loop.isOver = false := by
      have hmt := mt hphase.isOver
      simpa [hclosed] using hmt
    refine ⟨hover, ?_⟩
    intro hloop fs first second third hfs hround
    have hopen : s.closes = 0 := by
      rw [hphase.closes, hclosed]
      rfl
    have hlaunched : s.exec.launched = true := by
      have hmt := mt hphase.unstarted.2 hloop
      simpa using hmt
    obtain ⟨exec, log, hsame⟩ := loopEq_run ⟨s.exec, s.log, rfl⟩ ⟨hlaunched, hstopping⟩ hfs
    rw [hsame, hround]
    exact round_passes hloop hover hopen first second third

/-- **The control handler**, after every schedule of requests, of `Execute` and of the loop. -/
theorem execute_lawful (es : List Event) (h : CurrentReported es) : ExecuteLaw (final step started es) := by
  have hinv : PhaseInv (final step started es) ∧ LogInv (final step started es) := by
    refine inv_of step (A := fun _ t => Delivers t) (I := fun _ s => PhaseInv s ∧ LogInv s)
      ⟨phaseInv_started, logInv_started⟩ ?_ es ?_
    · rintro tr s e ⟨hphase, hlog⟩ hdelivers
      exact ⟨phaseInv_step hphase e, logInv_step hlog hdelivers⟩
    · intro pre t post hsplit
      refine h t ?_
      rw [hsplit]
      simp
  exact lawful_of_inv hinv.1 hinv.2

/-- A Stop, an Interrogate and a Shutdown, which comes while a pass is being made. -/
def stopThenShutdown : List Event :=
  [.exec, .exec, .exec, .request ⟨stop, ⟨running, accepts⟩⟩, .exec, .loop true,
    .request ⟨interrogate, ⟨running, accepts⟩⟩, .exec, .loop true, .tick, .loop true,
    .request ⟨shutdown, ⟨running, accepts⟩⟩, .exec, .exec, .exec, .loop true, .loop true, .loop true, .loop true, .exec,
    .exec]

/-- `Execute` has returned at its end, after the pass and the heartbeat were made. -/
theorem stopThenShutdown_returns :
    (final step started stopThenShutdown).exec = .returned false 0 ∧
      .received shutdown ∈ (final step started stopThenShutdown).log ∧
      (final step started stopThenShutdown).loop = .ended :=
  ⟨by decide, (execute_lawful stopThenShutdown (by decide)).returns (by decide)⟩

end Lockguard.Svc
