import Lockguard.FileCalls
import Lockguard.FileTree
import Lockguard.Isolation
/-!
# Self-heal under the running driver

`underFilter` is the machine where a file call takes effect as far as the minifilter lets its
requests through, and nothing else fails. With the window closed it answers as `filterOutcome`
says, which turns a pass into one on the machine of `Host.lean`. `selfHeal_iff`: the repair of a
file goes through only where the filter manager cannot give the names of what it opens, writes and
renames, for these names are protected like those of the files themselves.
-/
namespace Lockguard

open Calls

/-- The names the filter manager gives for the requests of a pass; no two of those that ask for one
are alike. -/
structure FilterNames (t : CaseTables) (device : List WCHAR) where
  query : FileEvent → FileNameQuery
  named : ∀ e : FileEvent, e.Named t device (query e)

section
variable {t : CaseTables} {device : List WCHAR}

/-- The callback asks for the name and finds it protected. -/
def FilterNames.judges (names : FilterNames t device) (e : FileEvent) : Bool :=
  e.asks && lgPathMatches t (names.query e)

/-- The requests go to the driver one after another, up to the first it refuses; the number of those
it lets through. -/
def admitAll (hmac : Hmac) (t : CaseTables) : List Event → Driver → Nat × Driver
  | [], d => (0, d)
  | e :: es, d =>
    if (handle hmac t d e).value.LetsThrough then
      ((admitAll hmac t es (handle hmac t d e).driver).1 + 1, (admitAll hmac t es (handle hmac t d e).driver).2)
    else (0, (handle hmac t d e).driver)

/-- The size of the file a copy reads. -/
def Host.copySize (t : CaseTables) (m : Host) : Call → Nat
  | .copy src _ => ((Disk.find t m.disk src).getD []).length
  | _ => 0

/-- How a call comes out of which `admitted` requests go through. -/
def admittedOutcome (admitted : Nat) (requests : List FileEvent) : Outcome :=
  ⟨decide (admitted < requests.length), "", copyChunk * admitted⟩

/-- The machine and the driver, where the requests of a call go through the callbacks. -/
def underFilter (hmac : Hmac) (names : FilterNames t device) (clock : FileEvent → SysTime) :
    Handler Call Call.Ret (Host × Driver) :=
  fun c s =>
    let requests := c.fileEvents (s.1.copySize t c)
    let admitted := admitAll hmac t (requests.map fun e => e.event (names.query e) (clock e)) s.2
    let answered := s.1.answer t (admittedOutcome admitted.1 requests) c
    (answered.1, (answered.2, admitted.2))

/-! ## The closed window -/

/-- The window is closed at every reading of the clock. -/
def ClosedAt (clock : FileEvent → SysTime) (d : Driver) : Prop :=
  ∀ e, (lgIsPermissive (clock e) d.window).1 = false

variable {hmac : Hmac} {names : FilterNames t device} {clock : FileEvent → SysTime} {d : Driver}

/-- A file request leaves it closed. -/
theorem handle_closedAt (hmac : Hmac) (t : CaseTables) (h : ClosedAt clock d) (e : FileEvent) (q : FileNameQuery) :
    ClosedAt clock (handle hmac t d (e.event q (clock e))).driver := by
  intro e'
  rcases handle_window hmac t d (e.event q (clock e)) with (hsame | hasked) | ⟨irp, k, hgranted, -⟩
  · rw [hsame.2]
    exact h e'
  · rw [hasked.2, fileEvent_now, lgIsPermissive_closed (closed_of_false (h e))]
  · obtain ⟨hioctl, -⟩ := hgranted
    cases e <;> cases hioctl

/-- **The closed driver lets through what it does not judge**, up to the first request it does. -/
theorem admitAll_closed (hmac : Hmac) (names : FilterNames t device) (h : ClosedAt clock d)
    (requests : List FileEvent) :
    (admitAll hmac t (requests.map fun e => e.event (names.query e) (clock e)) d).1 =
        (requests.takeWhile fun e => !names.judges e).length ∧
      ClosedAt clock (admitAll hmac t (requests.map fun e => e.event (names.query e) (clock e)) d).2 := by
  induction requests generalizing d with
  | nil => exact ⟨rfl, h⟩
  | cons e requests ih =>
    have hthrough : (handle hmac t d (e.event (names.query e) (clock e))).value.LetsThrough ↔
        names.judges e = false := by
      rw [deed_letsThrough_iff hmac d fileEvent_isDeed, Event.IsRefused, fileEvent_guarded_iff, fileEvent_now]
      simp [FilterNames.judges, h e]
    have hnext := handle_closedAt hmac t h e (names.query e)
    simp only [List.map_cons, admitAll]
    cases hjudged : names.judges e with
    | true =>
      rw [if_neg (fun hl => by simp [hthrough.1 hl] at hjudged)]
      simp [hjudged, hnext]
    | false =>
      rw [if_pos (hthrough.2 hjudged)]
      obtain ⟨hcount, hclosed⟩ := ih hnext
      exact ⟨by simp [hjudged, hcount], hclosed⟩

/-! ## The pass as one on the machine alone -/

/-- How a call comes out while the window is closed, the files being as they are in `m`. -/
def filterOutcome (names : FilterNames t device) (m : Host) (c : Call) : Outcome :=
  let requests := c.fileEvents (m.copySize t c)
  admittedOutcome (requests.takeWhile fun e => !names.judges e).length requests

theorem length_takeWhile_lt {α : Type} {p : α → Bool} {l : List α} :
    (l.takeWhile p).length < l.length ↔ ∃ x ∈ l, p x = false := by
  induction l with
  | nil => simp
  | cons x l ih =>
    rw [List.takeWhile_cons]
    cases hx : p x <;> simp [hx, ih]

/-- A call fails when one of its requests is judged. -/
theorem filterOutcome_fails {m : Host} {c : Call} : (filterOutcome names m c).fails = false ↔
    ∀ e ∈ c.fileEvents (m.copySize t c), names.judges e = false := by
  simp [filterOutcome, admittedOutcome, length_takeWhile_lt]

end

/-! ## Repairs that break off -/

section
variable {t : CaseTables} {env : Call → Outcome} {std : GoStd} {m : Host} {p : FilePair}

/-- A copy that breaks off writes less than the whole. -/
def CopyFallsShort (env : Call → Outcome) (src dst : List Name) (data : Bytes) : Prop :=
  (env (.copy src dst)).fails = true → (env (.copy src dst)).copied < data.length

/-- What a copy that breaks off leaves: the file as it was, or the beginning of the data. -/
theorem copyFile_breaks {src dst : List Name} {data : Bytes} (hne : foldPath t src ≠ foldPath t dst)
    (hsrc : Disk.find t m.disk src = some data) (hshort : CopyFallsShort env src dst data)
    (hbad : ¬ CopySucceeds env src dst) :
    Disk.find t ((copyFile src dst).run (onHost t env) m).2.disk dst = Disk.find t m.disk dst ∨
      ∃ n < data.length, Disk.find t ((copyFile src dst).run (onHost t env) m).2.disk dst = some (data.take n) := by
  rw [copyFile, run_orReturn, run_osOpen]
  cases hopen : (env (.openRead src)).fails with
  | true => exact Or.inl rfl
  | false =>
    simp only [hsrc, orFail, Option.isSome_some, Bool.not_false, Bool.and_self, if_true]
    rw [run_orReturn, run_osMkdirAll]
    cases hdir : (env (.mkdirAll dst.dropLast)).fails with
    | true => exact Or.inl rfl
    | false =>
      simp only [orFail, Bool.not_false, if_true]
      rw [run_orReturn, run_osCreate]
      cases hcreate : (env (.create dst)).fails with
      | true =>
        refine Or.inl ?_
        simp [orFail, onHost, Host.answer, hcreate]
      | false =>
        have hcopy : (env (.copy src dst)).fails = true := by
          by_contra hok
          exact hbad ⟨hopen, hdir, hcreate, by simpa using hok⟩
        refine Or.inr ⟨_, hshort hcopy, ?_⟩
        simp only [orFail, Bool.not_false, if_true]
        rw [run_ioCopy]
        simp [onHost, Host.answer, hcreate, hcopy, find_put_of_ne hne, hsrc]

/-- A replacement that breaks off leaves the file as it was. -/
theorem atomicReplace_breaks (hp : p.Distinct t) (hbad : ¬ (CopySucceeds env p.backup (stageOf p.primary) ∧
      (env (.rename (stageOf p.primary) p.primary)).fails = false)) (hb : (Disk.find t m.disk p.backup).isSome) :
    Disk.find t ((atomicReplace p.backup p.primary).run (onHost t env) m).2.disk p.primary =
      Disk.find t m.disk p.primary := by
  have hcopied : Disk.find t ((copyFile p.backup (stageOf p.primary)).run (onHost t env) m).2.disk p.primary =
      Disk.find t m.disk p.primary := by
    refine check_keeps t env (f := fun m => Disk.find t m.disk p.primary) (copyFile_makes _ _) ?_ m
    rintro c (rfl | rfl | rfl | rfl)
    all_goals exact keeps_find (by simp [Call.Writes, hp.stage_primary.symm])
  by_cases hcopy : CopySucceeds env p.backup (stageOf p.primary)
  · obtain ⟨b, hb⟩ := Option.isSome_iff_exists.1 hb
    have hrename : (env (.rename (stageOf p.primary) p.primary)).fails = true := by
      simpa [hcopy] using hbad
    have hok : ((copyFile p.backup (stageOf p.primary)).run (onHost t env) m).1 = .ok () := by
      rw [copyFile_run hp.backup_stage hb hcopy]
    rw [atomicReplace, run_orReturn_ok hok, run_osRename, ← hcopied]
    simp only [onHost, Host.answer, hrename]
    split <;> rfl
  · obtain ⟨e, he⟩ := copyFile_error (t := t) (m := m) (Or.inl hcopy)
    rw [atomicReplace, run_orReturn_error he]
    exact hcopied

/-- The primary is missing, or holds something else than the backup. -/
def FilePair.Differs (t : CaseTables) (m : Host) (p : FilePair) : Prop :=
  Disk.find t m.disk p.primary ≠ Disk.find t m.disk p.backup

/-- The hash tells a primary that is there from the backup. -/
def FilePair.Told (std : GoStd) (t : CaseTables) (m : Host) (p : FilePair) : Prop :=
  ∀ d b, Disk.find t m.disk p.primary = some d → Disk.find t m.disk p.backup = some b →
    std.sha256Hex d ≠ std.sha256Hex b

/-- Nothing but the repair of the pair can fail, and its copies fall short when they do. -/
structure FilePair.Readable (t : CaseTables) (env : Call → Outcome) (m : Host) (b : Bytes) (p : FilePair) : Prop where
  primary : (env (.readAll p.primary)).fails = false
  backup : (env (.readAll p.backup)).fails = false
  found : Disk.find t m.disk p.backup = some b
  short : CopyFallsShort env p.backup p.primary b

variable {b : Bytes}

theorem FilePair.Readable.readOf (h : p.Readable t env m b) :
    m.readOf t env p.primary = Disk.find t m.disk p.primary ∧ m.readOf t env p.backup = some b := by
  simp [Host.readOf, h.primary, h.backup, h.found]

/-- A repair that fails leaves something else than the backup. -/
theorem repairFails_differs (hp : p.Distinct t) (h : p.Readable t env m b) (hfails : RepairFails t env std m p) :
    Disk.find t ((ensurePair std p).run (onHost t env) m).2.disk p.primary ≠ some b := by
  obtain ⟨hprimary, hbackup⟩ := h.readOf
  obtain ⟨b', hb', ⟨hnone, hbad⟩ | ⟨d, hd, hne, hbad⟩⟩ := hfails
  · rw [ensurePair_missing hnone hbackup]
    rcases copyFile_breaks hp.backup_primary h.found h.short hbad with hsame | ⟨n, hn, hpart⟩
    · rw [hsame, ← hprimary, hnone]
      simp
    · rw [hpart]
      intro heq
      have hlen := congrArg List.length (Option.some.inj heq)
      rw [List.length_take] at hlen
      omega
  · obtain rfl : b' = b := Option.some.inj (hb'.symm.trans hbackup)
    rw [ensurePair_differs hd hbackup hne]
    rw [atomicReplace_breaks hp hbad (by simp [h.found]), ← hprimary, hd]
    rintro ⟨rfl⟩
    exact hne rfl

/-- **When a round of the repair leaves the primary equal to its backup.** -/
theorem ensurePair_heals_iff (std : GoStd) (hp : p.Distinct t) (h : p.Readable t env m b) :
    Disk.find t ((ensurePair std p).run (onHost t env) m).2.disk p.primary = some b ↔
      (p.Differs t m → p.Told std t m ∧ ¬ RepairFails t env std m p) := by
  obtain ⟨hprimary, hbackup⟩ := h.readOf
  unfold FilePair.Differs
  rw [h.found]
  by_cases hsame : Disk.find t m.disk p.primary = some b
  · rw [ensurePair_quiet (Or.inr ⟨b, b, by rw [hprimary, hsame], hbackup, rfl⟩)]
    exact iff_of_true hsame fun hne => absurd hsame hne
  · simp only [ne_eq, hsame, not_false_eq_true, forall_const]
    by_cases htold : p.Told std t m
    · by_cases hfails : RepairFails t env std m p
      · exact iff_of_false (repairFails_differs hp h hfails) fun hok => hok.2 hfails
      · refine iff_of_true (ensurePair_mends hp hbackup (fun d hd => ?_) hfails) ⟨htold, hfails⟩
        exact htold d b (hprimary ▸ hd) h.found
    · have hquiet : ∃ d b, m.readOf t env p.primary = some d ∧ m.readOf t env p.backup = some b ∧
          std.sha256Hex d = std.sha256Hex b := by
        unfold FilePair.Told at htold
        push Not at htold
        obtain ⟨d, b', hd, hb', heq⟩ := htold
        exact ⟨d, b', hprimary.trans hd, by rw [hbackup, ← h.found, hb'], heq⟩
      rw [ensurePair_quiet (Or.inr hquiet)]
      exact iff_of_false hsame fun hok => htold hok.1

/-! ## Both pairs -/

def filePairs : List FilePair := [driverPair, servicePair]

theorem mem_filePairs : p ∈ filePairs ↔ p = driverPair ∨ p = servicePair := by
  simp [filePairs]

/-- No repair writes a backup. -/
theorem backup_apart (t : CaseTables) : ∀ p ∈ filePairs, ∀ q ∈ filePairs,
    foldPath t q.backup ≠ foldPath t p.primary ∧ foldPath t q.backup ≠ foldPath t (stageOf p.primary) := by
  intro p hp q hq
  rcases mem_filePairs.1 hp with rfl | rfl <;> rcases mem_filePairs.1 hq with rfl | rfl
  all_goals exact ⟨foldPath_ne (by decide) t, foldPath_ne (by decide) t⟩

theorem FilePair.Readable.congr {m' : Host} (h : p.Readable t env m b)
    (hbackup : Disk.find t m'.disk p.backup = Disk.find t m.disk p.backup) : p.Readable t env m' b :=
  ⟨h.primary, h.backup, hbackup.trans h.found, h.short⟩

/-- **When the check leaves both primaries equal to their backups.** -/
theorem ensureFileIntegrity_heals_iff (std : GoStd) (h : ∀ p ∈ filePairs, ∃ b, p.Readable t env m b) :
    (∀ p ∈ filePairs, Disk.find t ((ensureFileIntegrity std).run (onHost t env) m).2.disk p.primary =
        Disk.find t m.disk p.backup) ↔
      ∀ p ∈ filePairs, p.Differs t m → p.Told std t m ∧ ¬ RepairFails t env std m p := by
  obtain ⟨b₁, h₁⟩ := h driverPair (by simp [filePairs])
  obtain ⟨b₂, h₂⟩ := h servicePair (by simp [filePairs])
  have hdriver := ensurePair_heals_iff std (driverPair_distinct t) h₁
  simp only [filePairs, List.forall_mem_cons, List.not_mem_nil, false_imp_iff, implies_true, and_true,
    h₁.found, h₂.found]
  by_cases hfails : RepairFails t env std m driverPair
  · have hleft := repairFails_differs (driverPair_distinct t) h₁ hfails
    rw [(ensureFileIntegrity_state m).1 hfails]
    exact iff_of_false (fun hheals => hleft hheals.1) fun hok => hleft (hdriver.2 hok.1)
  · obtain ⟨hprimary, hbackup⟩ := driverRepair_keeps t env std m
    have hservice := ensurePair_heals_iff std (servicePair_distinct t) (h₂.congr hbackup)
    rw [(ensureFileIntegrity_state m).2 hfails]
    rw [serviceRepair_keeps, hdriver, hservice]
    refine and_congr_right fun _ => ?_
    unfold FilePair.Differs FilePair.Told
    rw [repairFails_congr (readOf_congr hprimary) (readOf_congr hbackup), hprimary, hbackup]

end

/-! ## Under the filter -/

section
variable {t : CaseTables} {device : List WCHAR} {hmac : Hmac} {names : FilterNames t device}
  {clock : FileEvent → SysTime} {std : GoStd} {m : Host} {d : Driver}

/-- The call reads a backup, if it copies at all. -/
theorem copySize_congr {m' : Host} (hsame : ∀ p ∈ filePairs, Disk.find t m'.disk p.backup = Disk.find t m.disk p.backup)
    {c : Call} (hc : c.IsFileRepair) : m'.copySize t c = m.copySize t c := by
  have hdriver := hsame driverPair (by simp [filePairs])
  have hservice := hsame servicePair (by simp [filePairs])
  rcases hc with (rfl | rfl | (rfl | rfl | rfl | rfl) | (rfl | rfl | rfl | rfl) | rfl) |
    (rfl | rfl | (rfl | rfl | rfl | rfl) | (rfl | rfl | rfl | rfl) | rfl)
  all_goals simp only [Host.copySize, hdriver, hservice]

/-- A call under the closed filter, which stays closed. -/
theorem underFilter_call (hmac : Hmac) (hclosed : ClosedAt clock d) {m' : Host} {c : Call}
    (hsize : m'.copySize t c = m.copySize t c) :
    (underFilter hmac names clock c (m', d)).1 = (onHost t (filterOutcome names m) c m').1 ∧
    (underFilter hmac names clock c (m', d)).2.1 = (onHost t (filterOutcome names m) c m').2 ∧
    ClosedAt clock (underFilter hmac names clock c (m', d)).2.2 := by
  obtain ⟨hcount, hnext⟩ := admitAll_closed hmac names hclosed (c.fileEvents (m.copySize t c))
  have houtcome : admittedOutcome (admitAll hmac t ((c.fileEvents (m.copySize t c)).map fun e =>
      e.event (names.query e) (clock e)) d).1 (c.fileEvents (m.copySize t c)) = filterOutcome names m c := by
    rw [hcount, filterOutcome]
  simp only [underFilter, onHost, hsize, houtcome, true_and]
  exact hnext

/-- No call of the repair writes a backup. -/
theorem repair_backup {c : Call} (hc : c.IsFileRepair) : ∀ q ∈ filePairs, ¬ c.Writes t q.backup := by
  intro q hq
  rcases hc with hc | hc
  · have hapart := backup_apart t driverPair (by simp [filePairs]) q hq
    exact (repairCall hc).1 _ hapart.1 hapart.2
  · have hapart := backup_apart t servicePair (by simp [filePairs]) q hq
    exact (repairCall hc).1 _ hapart.1 hapart.2

/-- **A pass under the closed filter** leaves the machine as one where each call comes out as
`filterOutcome` says. -/
theorem underFilter_run (hclosed : ClosedAt clock d) :
    ((ensureFileIntegrity std).run (underFilter hmac names clock) (m, d)).2.1 =
      ((ensureFileIntegrity std).run (onHost t (filterOutcome names m)) m).2 := by
  refine (Prog.run_sim (R := fun (s : Host × Driver) (m' : Host) => s.1 = m' ∧ ClosedAt clock s.2 ∧
    ∀ p ∈ filePairs, Disk.find t m'.disk p.backup = Disk.find t m.disk p.backup) ?_
    (ensureFileIntegrity_makes std) ⟨rfl, hclosed, fun _ _ => rfl⟩).2.1
  rintro c ⟨m', d'⟩ _ hc ⟨rfl, hclosed', hsame⟩
  obtain ⟨hret, hhost, hnext⟩ := underFilter_call hmac hclosed' (copySize_congr hsame hc)
  refine ⟨hret, hhost, hnext, fun q hq => ?_⟩
  exact (answer_find _ m' (repair_backup hc q hq)).trans (hsame q hq)

/-- The requests of a copy that ask for a name. -/
def copyEvents (dst : List Name) (size : Nat) : List FileEvent := .create dst createAlways :: writeEvents dst size

/-- An open that asks for no name is not judged. -/
theorem judges_read (path : List Name) {parameters : CreateParameters}
    (h : (parameters.wantsDelete || parameters.wantsWrite) = false) :
    names.judges (.create path parameters) = false := by
  simp [FilterNames.judges, FileEvent.asks, h]

theorem copySucceeds_iff {src dst : List Name} : CopySucceeds (filterOutcome names m) src dst ↔
    ∀ e ∈ copyEvents dst ((Disk.find t m.disk src).getD []).length, names.judges e = false := by
  simp only [CopySucceeds, filterOutcome_fails, Call.fileEvents, Host.copySize, copyEvents, List.forall_mem_cons,
    List.not_mem_nil, false_imp_iff, implies_true, and_true]
  rw [judges_read src (by decide), judges_read _ (by decide), judges_read _ (by decide)]
  simp

/-- The requests of a repair that ask for a name. -/
def FilePair.repairEvents (t : CaseTables) (m : Host) (p : FilePair) : List FileEvent :=
  let size := ((Disk.find t m.disk p.backup).getD []).length
  match Disk.find t m.disk p.primary with
  | none => copyEvents p.primary size
  | some _ => copyEvents (stageOf p.primary) size ++ (Call.rename (stageOf p.primary) p.primary).fileEvents 0

variable {p : FilePair}

theorem filterOutcome_readAll (path : List Name) : (filterOutcome names m (.readAll path)).fails = false := by
  rw [filterOutcome_fails]
  have hjudged : names.judges (.create path openToRead) = false := judges_read path (by decide)
  simp [Call.fileEvents, hjudged]

theorem readOf_filterOutcome (path : List Name) :
    m.readOf t (filterOutcome names m) path = Disk.find t m.disk path := by
  rw [Host.readOf, filterOutcome_readAll]
  rfl

/-- A repair that is called for fails exactly when one of its requests is judged. -/
theorem not_repairFails_iff (hb : (Disk.find t m.disk p.backup).isSome) (htold : p.Told std t m) :
    ¬ RepairFails t (filterOutcome names m) std m p ↔ ∀ e ∈ p.repairEvents t m, names.judges e = false := by
  obtain ⟨b, hb⟩ := Option.isSome_iff_exists.1 hb
  have hrename : (filterOutcome names m (.rename (stageOf p.primary) p.primary)).fails = false ↔
      ∀ e ∈ (Call.rename (stageOf p.primary) p.primary).fileEvents 0, names.judges e = false := filterOutcome_fails
  simp only [RepairFails, readOf_filterOutcome, hb, Option.some.injEq, exists_eq_left', copySucceeds_iff, hrename,
    FilePair.repairEvents, Option.getD_some]
  cases hd : Disk.find t m.disk p.primary with
  | none => simp
  | some d =>
    have hne := htold d b hd hb
    simp only [reduceCtorEq, false_and, false_or, Option.some.injEq, exists_eq_left', hne, ne_eq, not_false_eq_true,
      true_and, Classical.not_not, List.forall_mem_append]

/-- Both primaries are equal to their backups. -/
def Healed (t : CaseTables) (m : Host) : Prop :=
  ∀ p ∈ filePairs, Disk.find t m.disk p.primary = Disk.find t m.disk p.backup

/-- A copy the filter breaks off falls short: each request writes its chunk. -/
theorem filterOutcome_short {data : Bytes} (hb : Disk.find t m.disk p.backup = some data) :
    CopyFallsShort (filterOutcome names m) p.backup p.primary data := by
  intro hfails
  have hsize : m.copySize t (.copy p.backup p.primary) = data.length := by simp [Host.copySize, hb]
  simp only [filterOutcome, admittedOutcome, hsize, decide_eq_true_eq] at hfails ⊢
  simp only [Call.fileEvents, writeEvents, List.length_map, List.length_range, copyChunk] at hfails ⊢
  omega

theorem filterOutcome_readable (names : FilterNames t device)
    (hbackups : ∀ p ∈ filePairs, (Disk.find t m.disk p.backup).isSome) :
    ∀ p ∈ filePairs, ∃ b, p.Readable t (filterOutcome names m) m b := by
  intro p hp
  obtain ⟨b, hb⟩ := Option.isSome_iff_exists.1 (hbackups p hp)
  exact ⟨b, filterOutcome_readAll _, filterOutcome_readAll _, hb, filterOutcome_short hb⟩

theorem ensureFileIntegrity_backup (hp : p ∈ filePairs) (m' : Host) :
    Disk.find t ((ensureFileIntegrity std).run (onHost t (filterOutcome names m)) m').2.disk p.backup =
      Disk.find t m'.disk p.backup :=
  check_keeps t _ (f := fun m => Disk.find t m.disk p.backup) (ensureFileIntegrity_makes std)
    (fun _ hc => keeps_find (repair_backup hc p hp)) m'

/-- **When a pass under the closed filter heals**, in terms of what the callbacks judge. -/
theorem healed_iff (hclosed : ClosedAt clock d) (hbackups : ∀ p ∈ filePairs, (Disk.find t m.disk p.backup).isSome) :
    Healed t ((ensureFileIntegrity std).run (underFilter hmac names clock) (m, d)).2.1 ↔
      ∀ p ∈ filePairs, p.Differs t m → p.Told std t m ∧ ∀ e ∈ p.repairEvents t m, names.judges e = false := by
  have hheals := ensureFileIntegrity_heals_iff std (filterOutcome_readable names hbackups)
  unfold Healed
  rw [underFilter_run hclosed]
  refine Iff.trans (forall₂_congr fun p hp => ?_) (hheals.trans (forall₂_congr fun p hp => ?_))
  · rw [ensureFileIntegrity_backup hp]
  · exact imp_congr_right fun _ => and_congr_right fun htold => not_repairFails_iff (hbackups p hp) htold

theorem writeEvents_ask {path : List Name} {size : Nat} : ∀ e ∈ writeEvents path size, e.asks = true := by
  simp [writeEvents, FileEvent.asks]

/-- All requests of a repair ask for a name. -/
theorem repairEvents_ask : ∀ e ∈ p.repairEvents t m, e.asks = true := by
  have hcopy : ∀ path size, ∀ e ∈ copyEvents path size, e.asks = true := by
    intro path size
    rw [copyEvents, List.forall_mem_cons]
    exact ⟨by simp [FileEvent.asks]; decide, writeEvents_ask⟩
  have hrename : ∀ src dst, ∀ e ∈ (Call.rename src dst).fileEvents 0, e.asks = true := by
    intro src dst
    simp only [Call.fileEvents, List.forall_mem_cons, List.not_mem_nil, false_imp_iff, implies_true, and_true,
      FileEvent.asks]
    decide
  unfold FilePair.repairEvents
  split
  · exact hcopy _ _
  · rw [List.forall_mem_append]
    exact ⟨hcopy _ _, hrename _ _⟩

/-- The paths of the primaries and of the files they are staged in have a protected suffix. -/
theorem primary_protected : ∀ p ∈ filePairs, ∀ path ∈ [p.primary, stageOf p.primary],
    ∃ s ∈ gProtectedSuffixes, s <:+: pathText path := by
  have hservice : wide "\\ProgramData\\Lockguard\\" ∈ gProtectedSuffixes := by decide
  have hdriver : wide "\\Windows\\System32\\drivers\\lockguard.sys" ∈ gProtectedSuffixes := by decide
  intro p hp path hpath
  simp only [List.mem_cons, List.not_mem_nil, or_false] at hpath
  rcases mem_filePairs.1 hp with rfl | rfl <;> rcases hpath with rfl | rfl
  · exact ⟨_, hdriver, by decide +kernel⟩
  · exact ⟨_, hdriver, by decide +kernel⟩
  · exact ⟨_, hservice, by decide +kernel⟩
  · exact ⟨_, hservice, by decide +kernel⟩

theorem primary_matches_iff (names : FilterNames t device) (hp : p ∈ filePairs) {e : FileEvent}
    (he : e.path = p.primary ∨ e.path = stageOf p.primary) :
    lgPathMatches t (names.query e) = true ↔ ntSuccess (names.query e).status = true := by
  obtain ⟨s, hs, hin⟩ := primary_protected p hp e.path (by simpa using he)
  exact matches_iff_named (names.named e) hs hin

end

/-- **When self-heal works under the running driver.** From every state with the window closed and
both backups there, a pass leaves each primary equal to its backup if and only if, for each that
differs, the hashes differ too and `LgPathMatches` finds none of the names its repair is asked for
protected; which, for the primary and its staging file, it finds of every name that can be had. -/
theorem selfHeal_iff (hmac : Hmac) (t : CaseTables) (std : GoStd) {device : List WCHAR} (names : FilterNames t device)
    (clock : FileEvent → SysTime) (m : Host) (d : Driver) (hclosed : ClosedAt clock d)
    (hbackups : ∀ p ∈ filePairs, (Disk.find t m.disk p.backup).isSome) :
    (Healed t ((ensureFileIntegrity std).run (underFilter hmac names clock) (m, d)).2.1 ↔
      ∀ p ∈ filePairs, p.Differs t m → p.Told std t m ∧
        ∀ e ∈ p.repairEvents t m, lgPathMatches t (names.query e) = false) ∧
    ∀ p ∈ filePairs, ∀ e : FileEvent, e.path = p.primary ∨ e.path = stageOf p.primary →
      (lgPathMatches t (names.query e) = true ↔ ntSuccess (names.query e).status = true) := by
  refine ⟨?_, fun p hp e he => primary_matches_iff names hp he⟩
  refine (healed_iff hclosed hbackups).trans (forall₂_congr fun p _ => imp_congr_right fun _ => ?_)
  refine and_congr_right fun _ => forall₂_congr fun e he => ?_
  simp [FilterNames.judges, repairEvents_ask e he]

/-! ## A worked pass -/

/-- SHA-256 of the two backups of `strippedHost`. -/
def workedStd : GoStd where
  sha256Hex := fun data =>
    if data = [77, 90, 1] then "9f75f952db3a26e639bb80045842ea59b85db57177235ab00b659316414a301d"
    else if data = [77, 90, 2] then "7cfe8f40465a50b7bfab51ae16f47b890c424f623f4e92502eccfa5d2df92bd3"
    else ""
  unmarshal := fun _ => none

/-- Every name that fits a counted string can be had. -/
def namesGiven (t : CaseTables) (device : List WCHAR) : FilterNames t device where
  query := fun e =>
    if 2 * (device ++ pathText e.path).length ≤ 65532 then
      ⟨statusSuccess, some (rtlInitUnicodeString (device ++ pathText e.path))⟩
    else ⟨statusNotFound, none⟩
  named := by
    intro e hs
    by_cases hlen : 2 * (device ++ pathText e.path).length ≤ 65532
    · rw [if_pos hlen]
      exact ⟨_, rfl, by rw [rtlInit_chars hlen]⟩
    · rw [if_neg hlen] at hs
      exact absurd hs (by decide)

/-- No name can be had. -/
def namesDenied (t : CaseTables) (device : List WCHAR) : FilterNames t device where
  query := fun _ => ⟨statusNotFound, none⟩
  named := fun _ hs => absurd hs (by decide)

theorem worked_closed : ClosedAt (fun _ => Worked.time 0) (driverEntry Worked.reads) :=
  fun _ => by rw [lgIsPermissive_closed rfl]

theorem worked_backups : ∀ p ∈ filePairs, (Disk.find .ascii strippedHost.disk p.backup).isSome := by
  intro p hp
  rcases mem_filePairs.1 hp with rfl | rfl <;> decide

/-- Without any name, both primaries are restored. -/
theorem selfHeal_unnamed : Healed .ascii ((ensureFileIntegrity workedStd).run
    (underFilter Worked.hmac (namesDenied .ascii workedDevice) fun _ => Worked.time 0)
      (strippedHost, driverEntry Worked.reads)).2.1 := by
  refine (selfHeal_iff Worked.hmac .ascii workedStd (namesDenied .ascii workedDevice) _ strippedHost _ worked_closed
    worked_backups).1.2 fun p hp _ => ⟨?_, fun e _ => rfl⟩
  have hmissing : Disk.find .ascii strippedHost.disk p.primary = none := by
    rcases mem_filePairs.1 hp with rfl | rfl <;> decide
  intro d b hd
  rw [hmissing] at hd
  cases hd

theorem worked_named : ntSuccess ((namesGiven .ascii workedDevice).query
    (.create driverPair.primary createAlways)).status = true := by decide +kernel

/-- Where the names can be had, neither is: the creation of the driver's image is refused. -/
theorem selfHeal_not : ¬ Healed .ascii ((ensureFileIntegrity workedStd).run
    (underFilter Worked.hmac (namesGiven .ascii workedDevice) fun _ => Worked.time 0)
      (strippedHost, driverEntry Worked.reads)).2.1 := by
  rw [healed_iff worked_closed worked_backups]
  intro hheals
  have hmissing : Disk.find .ascii strippedHost.disk driverPair.primary = none := by decide
  have hdiffers : driverPair.Differs .ascii strippedHost := by
    unfold FilePair.Differs
    decide
  have hcreate := (hheals driverPair (by simp [filePairs]) hdiffers).2 (.create driverPair.primary createAlways)
    (by simp [FilePair.repairEvents, hmissing, copyEvents])
  have hnamed := (primary_matches_iff (namesGiven .ascii workedDevice) (p := driverPair) (by simp [filePairs])
    (Or.inl rfl)).2 worked_named
  have hasks : (FileEvent.create driverPair.primary createAlways).asks = true := by decide
  simp [FilterNames.judges, hnamed, hasks] at hcreate

end Lockguard
