import Lockguard.Ioctl
import Lockguard.MiniFilter
import Lockguard.Watchdog
import Lockguard.Lib.PathTree
import Lockguard.Lib.Runs
/-!
# The volume under the minifilter

The volume as a tree of directories and files, names compared without regard to case. An operation
takes effect when its pre-operation callback lets it through, and the callback sees the current full
path. What a program opens on the way to an operation is an operation of its own.

With the window closed no file with a protected name is written, cut or deleted. It is carried away
by a rename of a directory above it, whose own name no suffix covers, replaced by a rename whose
target is not looked at, and emptied by an open that asks for no write access: `HarmsFiles` names
these operations, `fileStep_keeps_iff` that they are the ones, `fileRun_keeps_iff` what follows for
a run.
-/
namespace Lockguard

open PathTree Runs

/-- A file: which one it is, and what it holds. -/
structure File where
  id : Nat
  data : Bytes
deriving DecidableEq

inductive Node where
  | directory
  | file (f : File)
deriving DecidableEq

/-- Nodes by their folded paths. -/
abbrev Volume := Tree Name Node

/-- A file or directory by its current path on the volume, in its own spelling, with the normalized
name the filter manager gives for it. -/
structure FileRef (device : List WCHAR) where
  path : List Name
  name : UnicodeString
  spelled : name.chars = device ++ pathText path

section
variable {device : List WCHAR}

def FileRef.query (file : FileRef device) : FileNameQuery := ⟨statusSuccess, some file.name⟩

/-! ## Opening a file -/

def fileDirectoryFile : ULONG := 0x00000001
def fileNonDirectoryFile : ULONG := 0x00000040

def CreateParameters.wantsDirectory (p : CreateParameters) : Bool := p.options &&& fileDirectoryFile != 0
def CreateParameters.wantsFile (p : CreateParameters) : Bool := p.options &&& fileNonDirectoryFile != 0

/-- The create dispositions, in the high byte of `Parameters.Create.Options`. -/
def CreateParameters.disposition (p : CreateParameters) : ULONG := p.options >>> 24

def fileSupersede : ULONG := 0
def fileOpen : ULONG := 1
def fileCreate : ULONG := 2
def fileOpenIf : ULONG := 3
def fileOverwrite : ULONG := 4
def fileOverwriteIf : ULONG := 5

/-- What opening a file that is there makes of it; `fresh` is the file a superseded one gives way to. -/
def CreateParameters.existing (p : CreateParameters) (fresh : Nat) (f : File) : File :=
  if p.disposition = fileSupersede then ⟨fresh, []⟩
  else if p.disposition = fileOverwrite ∨ p.disposition = fileOverwriteIf then { f with data := [] }
  else f

/-- The node an open ends with, `none` if it fails; what was there before comes last. -/
def CreateParameters.opened (p : CreateParameters) (fresh : Nat) (parent : Option Node) : Option Node → Option Node
  | some .directory =>
    if p.wantsFile = false ∧ (p.disposition = fileOpen ∨ p.disposition = fileOpenIf) then some .directory else none
  | some (.file f) =>
    if p.wantsDirectory = false ∧ p.disposition ≠ fileCreate then some (.file (p.existing fresh f)) else none
  | none =>
    if parent = some .directory ∧ p.disposition ≠ fileOpen ∧ p.disposition ≠ fileOverwrite then
      some (if p.wantsDirectory then .directory else .file ⟨fresh, []⟩)
    else none

/-! ## The operations -/

inductive FileOp (device : List WCHAR) where
  | create (file : FileRef device) (parameters : CreateParameters) (fresh : Nat)
  | write (file : FileRef device) (offset : Nat) (bytes : Bytes)
  | setEndOfFile (file : FileRef device) (size : Nat)
  | delete (file : FileRef device) (ex : Bool)
  | rename (file : FileRef device) (target : List Name) (replaceIfExists ex : Bool)

/-- What the callback registered for the operation answers. For a rename it is the set-information request
alone. The I/O manager opens the directory of the target before it, in a create of its own that asks for write
access: with the window closed that create is refused when the directory lies below a protected one, but not
when it is a protected one itself, whose name ends before the backslash of the suffix. -/
def FileOp.preOperation (t : CaseTables) (now : SysTime) (d : Driver) : FileOp device → Reply PreOp
  | .create file parameters _ => lgPreCreate t parameters file.query now d
  | .write file _ _ => lgPreWrite t file.query now d
  | .setEndOfFile file _ => lgPreSetInformation t fileEndOfFileInformation file.query now d
  | .delete file ex =>
    lgPreSetInformation t (if ex then fileDispositionInformationEx else fileDispositionInformation) file.query now d
  | .rename file _ _ ex =>
    lgPreSetInformation t (if ex then fileRenameInformationEx else fileRenameInformation) file.query now d

/-- The data cut or filled with zeros to `size` bytes. -/
def resized (data : Bytes) (size : Nat) : Bytes := (data ++ List.replicate (size - data.length) 0).take size

def Node.mapData (f : Bytes → Bytes) : Node → Node
  | .directory => .directory
  | .file g => .file { g with data := f g.data }

/-- A node can be moved to `q`: it is there, its new directory is there, and what `q` names may go. -/
def CanMove (now : Volume) (p q : List Name) (replace : Bool) : Prop :=
  (now p).isSome ∧ Apart p q ∧ now q.dropLast = some .directory ∧ (replace = true ∨ now q = none)

instance (now : Volume) (p q : List Name) (replace : Bool) : Decidable (CanMove now p q replace) :=
  inferInstanceAs (Decidable (_ ∧ _))

/-- What the operation does to the volume once it is let through. -/
noncomputable def FileOp.effect (t : CaseTables) (now : Volume) : FileOp device → Volume
  | .create file parameters fresh =>
    let p := foldPath t file.path
    match parameters.opened fresh (now p.dropLast) (now p) with
    | none => now
    | some node =>
      let opened := Function.update now p (some node)
      if parameters.wantsDelete then remove opened p else opened
  | .write file offset bytes =>
    modify now (foldPath t file.path) (Node.mapData fun data =>
      resized data offset ++ bytes ++ data.drop (offset + bytes.length))
  | .setEndOfFile file size => modify now (foldPath t file.path) (Node.mapData fun data => resized data size)
  | .delete file _ => remove now (foldPath t file.path)
  | .rename file target replaceIfExists _ =>
    let p := foldPath t file.path
    let q := foldPath t target
    if CanMove now p q replaceIfExists then move now p q else now

/-- An operation issued while the window is closed: the callback's own question is answered FALSE. -/
structure FileIssue (device : List WCHAR) where
  op : FileOp device
  now : SysTime
  driver : Driver
  closed : (lgIsPermissive now driver.window).1 = false

def FileIssue.letThrough (t : CaseTables) (x : FileIssue device) : Bool :=
  (x.op.preOperation t x.now x.driver).value == .successNoCallback

noncomputable def fileStep (t : CaseTables) (now : Volume) (x : FileIssue device) : Volume :=
  if x.letThrough t then x.op.effect t now else now

noncomputable abbrev fileRun (t : CaseTables) (start : Volume) (xs : List (FileIssue device)) : Volume :=
  final (fileStep t) start xs

end

/-! ## The files to keep -/

/-- `\ProgramData\Lockguard` and `\Windows\Lockguard-Restore`. -/
def protectedDirs : List (List Name) :=
  [[wide "ProgramData", wide "Lockguard"], [wide "Windows", wide "Lockguard-Restore"]]

/-- `\Windows\System32\drivers\lockguard.sys`. -/
def driverImage : List Name := driverPathPrimary

/-- A path below one of the directories, or the driver's image. -/
def IsProtected (t : CaseTables) (p : List Name) : Prop :=
  (∃ d ∈ protectedDirs, foldPath t d <+: p ∧ p ≠ foldPath t d) ∨ p = foldPath t driverImage

/-- The file `f` was at the protected path `p` at the start. -/
def IsKept (t : CaseTables) (start : Volume) (p : List Name) (f : File) : Prop :=
  IsProtected t p ∧ start p = some (.file f)

/-- Every file that was at a protected path at the start is at that path, and holds what it held. -/
def FilesKept (t : CaseTables) (start now : Volume) : Prop := ∀ p f, IsKept t start p f → now p = some (.file f)

/-- The operation opens a file to be kept in a way that empties or replaces it, asking for no access
the callback looks at; or it renames a node without a protected name so that a file to be kept is
carried away with it or gives way to it. The create that opens the target's directory stops that last for
targets two and more levels below a protected directory; a file right in one and the driver's image can
still be replaced. -/
def HarmsFiles (t : CaseTables) (start now : Volume) {device : List WCHAR} : FileOp device → Prop
  | .create file parameters fresh =>
    parameters.wantsDelete = false ∧ parameters.wantsWrite = false ∧ parameters.wantsDirectory = false ∧
      ∃ f, IsKept t start (foldPath t file.path) f ∧ parameters.disposition ≠ fileCreate ∧
        parameters.existing fresh f ≠ f
  | .write _ _ _ => False
  | .setEndOfFile _ _ => False
  | .delete _ _ => False
  | .rename file target replaceIfExists _ =>
    let p := foldPath t file.path
    let q := foldPath t target
    lgPathMatches t file.query = false ∧ CanMove now p q replaceIfExists ∧
      ((∃ s f, IsKept t start (p ++ s) f) ∨ ∃ s f, IsKept t start (q ++ s) f ∧ now (p ++ s) ≠ some (.file f))

/-! ## What the callbacks let through -/

section
variable {t : CaseTables} {device : List WCHAR}

theorem dir_text : ∀ d ∈ protectedDirs, pathText d ++ [backslash] ∈ gProtectedSuffixes := by decide +kernel

theorem driverImage_text : pathText driverImage ∈ gProtectedSuffixes := by decide +kernel

/-- **A protected path has a protected name.** -/
theorem protected_matches {file : FileRef device} (h : IsProtected t (foldPath t file.path)) :
    lgPathMatches t file.query = true := by
  rw [FileRef.query, lgPathMatches_iff, file.spelled]
  rcases h with ⟨d, hd, ⟨rest, hrest⟩, hne⟩ | h
  · obtain ⟨p, below, hpath, hp, rfl⟩ := List.map_eq_append_iff.1 hrest.symm
    cases below with
    | nil =>
      rw [List.append_nil] at hpath
      exact absurd (by rw [hpath]; exact hp) hne
    | cons c below =>
      refine ⟨_, dir_text d hd, device.map t.upcase, (c ++ pathText below).map t.upcase, ?_⟩
      have htext : pathText (p ++ c :: below) = pathText p ++ [backslash] ++ (c ++ pathText below) := by
        simp [pathText]
      rw [hpath, htext]
      simp only [List.map_append, map_pathText_congr hp, List.append_assoc]
  · refine ⟨_, driverImage_text, device.map t.upcase, [], ?_⟩
    rw [List.append_nil, List.map_append, map_pathText_congr h]

theorem guardFile_passes {q : FileNameQuery} {now : SysTime} {d : Driver}
    (hclosed : (lgIsPermissive now d.window).1 = false) :
    (guardFile t q now d).value = .successNoCallback ↔ lgPathMatches t q = false := by
  unfold guardFile
  cases hm : lgPathMatches t q with
  | true => simp [unlessPermissive, hclosed]
  | false => simp

theorem dangerous_passes {klass : Nat} {q : FileNameQuery} {now : SysTime} {d : Driver}
    (hclosed : (lgIsPermissive now d.window).1 = false) (hk : dangerousClass klass = true) :
    (lgPreSetInformation t klass q now d).value = .successNoCallback ↔ lgPathMatches t q = false := by
  rw [lgPreSetInformation, hk]
  exact guardFile_passes hclosed

/-- The file or directory an operation is issued on. -/
def FileOp.file : FileOp device → FileRef device
  | .create file _ _ | .write file _ _ | .setEndOfFile file _ | .delete file _ | .rename file _ _ _ => file

/-- An open that asks for nothing the callback looks at. -/
def FileOp.Harmless : FileOp device → Prop
  | .create _ parameters _ => parameters.wantsDelete = false ∧ parameters.wantsWrite = false
  | _ => False

/-- **What the callbacks let through**: everything on a name that does not match, and such opens. -/
theorem letThrough_iff (x : FileIssue device) :
    x.letThrough t = true ↔ x.op.Harmless ∨ lgPathMatches t x.op.file.query = false := by
  obtain ⟨op, now, d, hclosed⟩ := x
  simp only [FileIssue.letThrough, beq_iff_eq]
  cases op with
  | create file parameters fresh =>
    simp only [FileOp.preOperation, FileOp.Harmless, FileOp.file, lgPreCreate]
    split
    · rename_i hwants
      simpa using Or.inl (by simpa using hwants)
    · rename_i hwants
      rw [guardFile_passes hclosed, or_iff_right]
      simpa using hwants
  | write file offset bytes =>
    simp [FileOp.preOperation, FileOp.Harmless, FileOp.file, lgPreWrite, guardFile_passes hclosed]
  | setEndOfFile file size =>
    have hk : dangerousClass fileEndOfFileInformation = true := by decide
    simp [FileOp.preOperation, FileOp.Harmless, FileOp.file, dangerous_passes hclosed hk]
  | delete file ex =>
    have hk : dangerousClass (if ex then fileDispositionInformationEx else fileDispositionInformation) = true := by
      cases ex <;> decide
    simp [FileOp.preOperation, FileOp.Harmless, FileOp.file, dangerous_passes hclosed hk]
  | rename file target replace ex =>
    have hk : dangerousClass (if ex then fileRenameInformationEx else fileRenameInformation) = true := by
      cases ex <;> decide
    simp [FileOp.preOperation, FileOp.Harmless, FileOp.file, dangerous_passes hclosed hk]

/-! ## What one operation does -/

variable {start now now' : Volume}

/-- A change at one path keeps the files when it keeps the file there. -/
theorem filesKept_at {p : List Name} (h : FilesKept t start now) (hother : ∀ r, r ≠ p → now' r = now r) :
    FilesKept t start now' ↔ ∀ f, IsKept t start p f → now' p = some (.file f) := by
  constructor
  · exact fun hkept f hf => hkept p f hf
  · intro hp r f hf
    by_cases hr : r = p
    · subst hr; exact hp f hf
    · rw [hother r hr]; exact h r f hf

/-- Nothing is to be kept under a name that does not match. -/
theorem filesKept_unmatched {file : FileRef device} (h : FilesKept t start now)
    (hm : lgPathMatches t file.query = false) (hother : ∀ r, r ≠ foldPath t file.path → now' r = now r) :
    FilesKept t start now' := by
  rw [filesKept_at h hother]
  intro f hf
  rw [protected_matches hf.1] at hm
  cases hm

theorem create_of_ne_path {file : FileRef device} {parameters : CreateParameters} {fresh : Nat} {r : List Name}
    (hr : r ≠ foldPath t file.path) : (FileOp.create file parameters fresh).effect t now r = now r := by
  simp only [FileOp.effect]
  cases parameters.opened fresh (now (foldPath t file.path).dropLast) (now (foldPath t file.path)) with
  | none => rfl
  | some node =>
    cases parameters.wantsDelete with
    | true => exact (remove_of_ne hr).trans (Function.update_of_ne hr _ _)
    | false => exact Function.update_of_ne hr _ _

/-- An open that is not to delete leaves of a file what `existing` says, or fails. -/
theorem create_at_file {file : FileRef device} {parameters : CreateParameters} {fresh : Nat} {f : File}
    (hf : now (foldPath t file.path) = some (.file f)) (hd : parameters.wantsDelete = false) :
    (FileOp.create file parameters fresh).effect t now (foldPath t file.path) = some (.file f) ↔
      ¬ (parameters.wantsDirectory = false ∧ parameters.disposition ≠ fileCreate ∧
        parameters.existing fresh f ≠ f) := by
  simp only [FileOp.effect, hf, CreateParameters.opened]
  by_cases hopen : parameters.wantsDirectory = false ∧ parameters.disposition ≠ fileCreate
  · simp [hopen, hd]
  · simp only [hopen, if_false, hf, true_iff]
    exact fun h => hopen ⟨h.1, h.2.1⟩

/-- A move keeps the files exactly when it takes none away and puts nothing else in the place of one. -/
theorem filesKept_move {p q : List Name} (h : FilesKept t start now) (hapart : Apart p q) :
    FilesKept t start (move now p q) ↔
      ¬ ((∃ s f, IsKept t start (p ++ s) f) ∨ ∃ s f, IsKept t start (q ++ s) f ∧ now (p ++ s) ≠ some (.file f)) := by
  constructor
  · rintro hkept (⟨s, f, hf⟩ | ⟨s, f, hf, hne⟩)
    · have hgone := hkept _ f hf
      rw [move_source (hapart.not_prefix (List.prefix_append p s)) (List.prefix_append p s)] at hgone
      cases hgone
    · have hthere := hkept _ f hf
      rw [move_target] at hthere
      exact hne hthere
  · intro hno r f hf
    by_cases hq : q <+: r
    · obtain ⟨s, rfl⟩ := hq
      rw [move_target]
      by_contra hne
      exact hno (Or.inr ⟨s, f, hf, hne⟩)
    · by_cases hp : p <+: r
      · obtain ⟨s, rfl⟩ := hp
        exact absurd (Or.inl ⟨s, f, hf⟩) hno
      · rw [move_outside hq hp]
        exact h r f hf

/-- **What one operation does to the files to keep**: it takes one away or changes it exactly when it
is one of `HarmsFiles`. -/
theorem fileStep_keeps_iff (h : FilesKept t start now) (x : FileIssue device) :
    FilesKept t start (fileStep t now x) ↔ ¬ HarmsFiles t start now x.op := by
  have hlet := letThrough_iff (t := t) x
  unfold fileStep
  cases hx : x.op with
  | create file parameters fresh =>
    rw [hx] at hlet
    split
    · rename_i hl
      rw [filesKept_at h fun r hr => create_of_ne_path hr]
      constructor
      · rintro hkept ⟨hd, -, hdir, f, hf, hdisp, hne⟩
        exact (create_at_file (h _ f hf) hd).1 (hkept f hf) ⟨hdir, hdisp, hne⟩
      · intro hno f hf
        have hharmless : parameters.wantsDelete = false ∧ parameters.wantsWrite = false := by
          rcases hlet.1 hl with hquiet | hm
          · exact hquiet
          · rw [FileOp.file, protected_matches hf.1] at hm
            cases hm
        rw [create_at_file (h _ f hf) hharmless.1]
        exact fun hbad => hno ⟨hharmless.1, hharmless.2, hbad.1, f, hf, hbad.2⟩
    · rename_i hl
      exact iff_of_true h fun hbad => hl (hlet.2 (Or.inl ⟨hbad.1, hbad.2.1⟩))
  | write file offset bytes =>
    rw [hx] at hlet
    refine iff_of_true ?_ id
    split
    · rename_i hl
      exact filesKept_unmatched h ((hlet.1 hl).resolve_left id) fun r hr => modify_of_ne _ hr
    · exact h
  | setEndOfFile file size =>
    rw [hx] at hlet
    refine iff_of_true ?_ id
    split
    · rename_i hl
      exact filesKept_unmatched h ((hlet.1 hl).resolve_left id) fun r hr => modify_of_ne _ hr
    · exact h
  | delete file ex =>
    rw [hx] at hlet
    refine iff_of_true ?_ id
    split
    · rename_i hl
      exact filesKept_unmatched h ((hlet.1 hl).resolve_left id) fun r hr => remove_of_ne hr
    · exact h
  | rename file target replace ex =>
    rw [hx] at hlet
    split
    · rename_i hl
      have hm : lgPathMatches t file.query = false := (hlet.1 hl).resolve_left id
      simp only [FileOp.effect, HarmsFiles]
      split
      · rename_i hcan
        exact (filesKept_move h hcan.2.1).trans (not_congr ⟨fun hbad => ⟨hm, hcan, hbad⟩, fun hbad => hbad.2.2⟩)
      · rename_i hcan
        exact iff_of_true h fun hbad => hcan hbad.2.1
    · rename_i hl
      exact iff_of_true h fun hbad => hl (hlet.2 (Or.inr hbad.1))

/-! ## Runs -/

/-- **The files over a run** with the window closed: in every state reached each is where it was at
the start, exactly when no operation of the run is one of `HarmsFiles`. -/
theorem fileRun_keeps_iff (t : CaseTables) {device : List WCHAR} (start : Volume) (xs : List (FileIssue device)) :
    (∀ ys, ys <+: xs → FilesKept t start (fileRun t start ys)) ↔
      ∀ pre x post, turns (fileStep t) start xs = pre ++ x :: post → ¬ HarmsFiles t start x.before x.event.op := by
  constructor
  · intro hkept pre x post hturns
    obtain ⟨before, after, hxs, -, hbefore, -⟩ := turns_split (fileStep t) hturns
    have hnow : FilesKept t start x.before := by
      rw [hbefore]
      exact hkept before (by rw [hxs]; exact List.prefix_append _ _)
    have hnext : FilesKept t start (fileStep t x.before x.event) := by
      rw [hbefore, ← final_snoc (fileStep t)]
      exact hkept (before ++ [x.event]) ⟨after, by rw [hxs]; simp⟩
    exact (fileStep_keeps_iff hnow x.event).1 hnext
  · rintro hno ys ⟨zs, rfl⟩
    refine inv_of (fileStep t) (A := fun _ x => ¬ HarmsFiles t start x.before x.event.op)
      (I := fun _ now => FilesKept t start now) (fun _ _ hf => hf.2)
      (fun _ _ x h hx => (fileStep_keeps_iff h x).2 hx) ys ?_
    intro pre x post hturns
    refine hno pre x (post ++ turns (fileStep t) (fileRun t start ys) zs) ?_
    rw [turns_append, hturns]
    simp

end

/-! ## A worked volume -/

/-- The nodes listed, each at its folded path. -/
def volumeOf (nodes : List (List Name × Node)) : Volume := fun p =>
  (nodes.map fun n => (foldPath .ascii n.1, n.2)).lookup p

def serviceExe : List Name := [wide "ProgramData", wide "Lockguard", wide "bin", wide "lockguard-svc.exe"]
def strayFile : List Name := [wide "Users", wide "stray.sys"]

def workedVolume : Volume :=
  volumeOf [([], .directory), ([wide "ProgramData"], .directory), (serviceExe.take 2, .directory),
    (serviceExe.take 3, .directory), (serviceExe, .file ⟨1, [77, 90]⟩), ([wide "Windows"], .directory),
    (driverImage.take 2, .directory), (driverImage.take 3, .directory), (driverImage, .file ⟨2, [77, 90]⟩),
    ([wide "Users"], .directory), (strayFile, .file ⟨3, []⟩)]

def workedDevice : List WCHAR := wide "\\Device\\HarddiskVolume3"

def fileRef (path : List Name) (h : 2 * (workedDevice ++ pathText path).length ≤ 65532) : FileRef workedDevice :=
  ⟨path, rtlInitUnicodeString (workedDevice ++ pathText path), rtlInit_chars h⟩

theorem booted_closed : (lgIsPermissive (Worked.time 0) (driverEntry Worked.reads).window).1 = false := by
  decide +kernel

/-- An operation just after the driver has started. -/
def workedFileIssue (op : FileOp workedDevice) : FileIssue workedDevice :=
  ⟨op, Worked.time 0, driverEntry Worked.reads, booted_closed⟩

def lockguardDir : FileRef workedDevice := fileRef (serviceExe.take 2) (by decide +kernel)
def strayRef : FileRef workedDevice := fileRef strayFile (by decide +kernel)
def imageRef : FileRef workedDevice := fileRef driverImage (by decide +kernel)

/-- `FILE_OVERWRITE` with `FILE_READ_DATA`. -/
def overwriteToRead : CreateParameters := ⟨0x04000000, some 0x00000001⟩

/-- The directory renamed, another file renamed onto the driver's image, or the image opened to be
overwritten without write access: each takes a file away. -/
theorem fileRun_not_keeps :
    ¬ FilesKept .ascii workedVolume (fileRun .ascii workedVolume
      [workedFileIssue (.rename lockguardDir [wide "ProgramData", wide "Aside"] false false)]) ∧
    ¬ FilesKept .ascii workedVolume (fileRun .ascii workedVolume
      [workedFileIssue (.rename strayRef driverImage true false)]) ∧
    ¬ FilesKept .ascii workedVolume (fileRun .ascii workedVolume
      [workedFileIssue (.create imageRef overwriteToRead 4)]) := by
  have hharm : ∀ x : FileIssue workedDevice, HarmsFiles .ascii workedVolume workedVolume x.op →
      ¬ FilesKept .ascii workedVolume (fileRun .ascii workedVolume [x]) :=
    fun x hx hkept => (fileStep_keeps_iff (fun _ _ hf => hf.2) x).1 hkept hx
  have hservice : IsKept .ascii workedVolume (foldPath .ascii serviceExe) ⟨1, [77, 90]⟩ :=
    ⟨Or.inl ⟨_, List.mem_cons_self, by decide +kernel⟩, by decide +kernel⟩
  have himage : IsKept .ascii workedVolume (foldPath .ascii driverImage) ⟨2, [77, 90]⟩ :=
    ⟨Or.inr rfl, by decide +kernel⟩
  refine ⟨hharm _ ⟨by decide +kernel, by decide +kernel, Or.inl ⟨foldPath .ascii (serviceExe.drop 2), _, hservice⟩⟩,
    hharm _ ⟨by decide +kernel, by decide +kernel, Or.inr ⟨[], _, himage, by decide +kernel⟩⟩,
    hharm _ ⟨by decide, by decide, by decide, _, himage, by decide, by decide⟩⟩

end Lockguard
