import Lockguard.FileTree
/-!
# One open of a protected file, and the writes through its handle (`minifilter.c:26-128`)

| here | there |
| --- | --- |
| `NameAnswer`       | what `FltGetFileNameInformation` answers: the file's name, or a failure |
| `FileOpening`      | the create request (`LgPreCreate`) and the later writes (`LgPreWrite`) |
| `contents`         | what the file holds after the create, after each write and after the close |

The file system opens, replaces or empties the file by the create disposition alone. `LgPreCreate`
looks at the access mask and at `FILE_DELETE_ON_CLOSE`, and a name that cannot be had matches
nothing: `contents_unchanged_iff`.
-/
namespace Lockguard

/-- A file whose normalized name contains one of the protected suffixes. -/
structure ProtectedFile (t : CaseTables) where
  name : UnicodeString
  isProtected : ∃ s ∈ gProtectedSuffixes, s.map t.upcase <:+: name.chars.map t.upcase

/-- When a callback asks: its clock reading and the driver's state, the window closed. -/
structure ClosedMoment where
  now : SysTime
  driver : Driver
  closed : (lgIsPermissive now driver.window).1 = false

inductive NameAnswer where
  | named
  | failed (status : NTSTATUS) (isFailure : ntSuccess status = false)

structure HandleWrite where
  moment : ClosedMoment
  answer : NameAnswer
  offset : Nat
  bytes : Bytes

structure FileOpening where
  moment : ClosedMoment
  answer : NameAnswer
  parameters : CreateParameters
  /-- The file a superseded one gives way to. -/
  fresh : Nat
  writes : List HandleWrite

section
variable (t : CaseTables) (file : ProtectedFile t)

def NameAnswer.query : NameAnswer → FileNameQuery
  | .named => ⟨statusSuccess, some file.name⟩
  | .failed status _ => ⟨status, none⟩

def HandleWrite.letThrough (w : HandleWrite) : Bool :=
  (lgPreWrite t (w.answer.query t file) w.moment.now w.moment.driver).value == .successNoCallback

def FileOpening.letThrough (x : FileOpening) : Bool :=
  (lgPreCreate t x.parameters (x.answer.query t file) x.moment.now x.moment.driver).value == .successNoCallback

/-! ## What the file holds -/

/-- The bytes from an offset on, zeros before them where the data ends earlier. -/
def spliced (data : Bytes) (offset : Nat) (bytes : Bytes) : Bytes :=
  resized data offset ++ bytes ++ data.drop (offset + bytes.length)

def HandleWrite.written (w : HandleWrite) (data : Bytes) : Bytes :=
  if w.letThrough t file then spliced data w.offset w.bytes else data

/-- The contents after each of the writes. -/
def writtenBy : List HandleWrite → Bytes → List Bytes
  | [], _ => []
  | w :: ws, data => w.written t file data :: writtenBy ws (w.written t file data)

/-- The file there is opened: the request is let through, and the file system takes it. -/
def FileOpening.handle (x : FileOpening) (f : File) : Option File :=
  if x.letThrough t file then
    match x.parameters.opened x.fresh none (some (.file f)) with
    | some (.file g) => some g
    | _ => none
  else none

/-- After the create, after each write, and after the close; `none` for a file that is gone. -/
def FileOpening.contents (x : FileOpening) (f : File) : List (Option Bytes) :=
  match x.handle t file f with
  | none => [some f.data]
  | some g => some g.data :: (writtenBy t file x.writes g.data).map some ++ if x.parameters.wantsDelete then [none] else []

end

section
variable {t : CaseTables} {file : ProtectedFile t}

/-! ## What is let through -/

def NameAnswer.Fails : NameAnswer → Prop
  | .named => False
  | .failed _ _ => True

instance (a : NameAnswer) : Decidable a.Fails := by
  cases a
  · exact inferInstanceAs (Decidable False)
  · exact inferInstanceAs (Decidable True)

/-- The file matches unless its name cannot be had. -/
theorem query_matches_iff (a : NameAnswer) : lgPathMatches t (a.query t file) = false ↔ a.Fails := by
  cases a with
  | named =>
    have hmatch := lgPathMatches_iff.2 file.isProtected
    simp [NameAnswer.query, NameAnswer.Fails, hmatch]
  | failed status hfail => simp [NameAnswer.query, NameAnswer.Fails, lgPathMatches, hfail]

theorem write_letThrough_iff (file : ProtectedFile t) (w : HandleWrite) : w.letThrough t file = true ↔ w.answer.Fails := by
  rw [HandleWrite.letThrough, beq_iff_eq, lgPreWrite, guardFile_passes w.moment.closed, query_matches_iff]

theorem create_letThrough_iff (x : FileOpening) : x.letThrough t file = true ↔
    x.parameters.wantsDelete = false ∧ x.parameters.wantsWrite = false ∨ x.answer.Fails := by
  rw [FileOpening.letThrough, beq_iff_eq, lgPreCreate]
  split
  · rename_i hquiet
    simpa using Or.inl (by simpa using hquiet)
  · rename_i hjudged
    rw [guardFile_passes x.moment.closed, query_matches_iff, or_iff_right]
    simpa using hjudged

/-! ## When nothing changes -/

/-- The request gets a handle: it asks for nothing the callback looks at or its name cannot be had,
and it may open a file that is there. -/
def FileOpening.GetsHandle (x : FileOpening) : Prop :=
  (x.parameters.wantsDelete = false ∧ x.parameters.wantsWrite = false ∨ x.answer.Fails) ∧
    x.parameters.wantsDirectory = false ∧ x.parameters.disposition ≠ fileCreate

/-- `FILE_SUPERSEDE`, `FILE_OVERWRITE` or `FILE_OVERWRITE_IF`. -/
def CreateParameters.Empties (p : CreateParameters) : Prop :=
  p.disposition = fileSupersede ∨ p.disposition = fileOverwrite ∨ p.disposition = fileOverwriteIf

instance (x : FileOpening) : Decidable x.GetsHandle := inferInstanceAs (Decidable (_ ∧ _))
instance (p : CreateParameters) : Decidable p.Empties := inferInstanceAs (Decidable (_ ∨ _))

theorem existing_data (p : CreateParameters) (fresh : Nat) (f : File) :
    (p.existing fresh f).data = if p.Empties then [] else f.data := by
  unfold CreateParameters.existing CreateParameters.Empties
  by_cases hs : p.disposition = fileSupersede
  · simp [hs]
  · by_cases ho : p.disposition = fileOverwrite ∨ p.disposition = fileOverwriteIf
    · simp [hs, ho]
    · simp [hs, ho]

theorem handle_of_gets {x : FileOpening} (h : x.GetsHandle) (f : File) :
    x.handle t file f = some (x.parameters.existing x.fresh f) := by
  obtain ⟨hlet, hopen⟩ := h
  simp only [FileOpening.handle, (create_letThrough_iff x).2 hlet, if_true, CreateParameters.opened, if_pos hopen]

theorem handle_of_gets_none {x : FileOpening} (h : ¬ x.GetsHandle) (f : File) : x.handle t file f = none := by
  unfold FileOpening.handle
  split
  · rename_i hlet
    have hopen : ¬ (x.parameters.wantsDirectory = false ∧ x.parameters.disposition ≠ fileCreate) :=
      fun hopen => h ⟨(create_letThrough_iff x).1 hlet, hopen⟩
    simp only [CreateParameters.opened, if_neg hopen]
  · rfl

theorem written_eq (w : HandleWrite) (data : Bytes) :
    w.written t file data = if w.answer.Fails then spliced data w.offset w.bytes else data := by
  have hlet := write_letThrough_iff file w
  unfold HandleWrite.written
  by_cases hf : w.answer.Fails
  · rw [if_pos hf, if_pos (hlet.2 hf)]
  · rw [if_neg hf, if_neg (mt hlet.1 hf)]

/-- Writes that each leave the data leave it together. -/
theorem writtenBy_unchanged_iff (file : ProtectedFile t) (ws : List HandleWrite) (data : Bytes) :
    (∀ d ∈ writtenBy t file ws data, d = data) ↔
      ∀ w ∈ ws, w.answer.Fails → spliced data w.offset w.bytes = data := by
  induction ws with
  | nil => simp [writtenBy]
  | cons w ws ih =>
    have hfirst : w.written t file data = data ↔ (w.answer.Fails → spliced data w.offset w.bytes = data) := by
      rw [written_eq]
      split
      · rename_i hf
        simp [hf]
      · rename_i hf
        simp [hf]
    rw [writtenBy, List.forall_mem_cons, List.forall_mem_cons, ← hfirst, and_congr_right_iff]
    intro hkept
    rw [hkept, ih]

/-- **When the content of a protected file is unchanged** from the create to the close, the window
being closed: the request gets no handle; or it does not empty the file, and every write whose name
query fails puts back what stands there, and the file is not to be deleted on close. -/
theorem contents_unchanged_iff (file : ProtectedFile t) (x : FileOpening) (f : File) :
    (∀ c ∈ x.contents t file f, c = some f.data) ↔
      (x.GetsHandle → (x.parameters.Empties → f.data = []) ∧
        (∀ w ∈ x.writes, w.answer.Fails → spliced f.data w.offset w.bytes = f.data) ∧
        x.parameters.wantsDelete = false) := by
  unfold FileOpening.contents
  by_cases hopen : x.GetsHandle
  · have hcreate : (x.parameters.existing x.fresh f).data = f.data ↔ (x.parameters.Empties → f.data = []) := by
      rw [existing_data]
      split
      · rename_i he
        simp [he, eq_comm]
      · rename_i he
        simp [he]
    rw [handle_of_gets hopen]
    simp only [hopen, true_imp_iff, List.cons_append, List.forall_mem_cons, Option.some.injEq, hcreate]
    refine and_congr_right fun he => ?_
    rw [hcreate.2 he, List.forall_mem_append]
    refine and_congr ?_ ?_
    · rw [← writtenBy_unchanged_iff file]
      simp
    · cases x.parameters.wantsDelete <;> simp
  · rw [handle_of_gets_none hopen]
    simp [hopen]

end

/-! ## A worked file -/

namespace Worked

def imageName : UnicodeString := rtlInitUnicodeString (workedDevice ++ pathText driverImage)

theorem imageName_protected : ∃ s ∈ gProtectedSuffixes,
    s.map CaseTables.ascii.upcase <:+: imageName.chars.map CaseTables.ascii.upcase := by
  rw [imageName, rtlInit_chars (by decide +kernel)]
  refine ⟨pathText driverImage, driverImage_text, workedDevice.map asciiUpcase, [], ?_⟩
  rw [List.append_nil, List.map_append]
  rfl

/-- The driver's image on the boot volume. -/
def imageFile : ProtectedFile .ascii := ⟨imageName, imageName_protected⟩

def moment : ClosedMoment := ⟨time 0, driverEntry reads, booted_closed⟩

def openTo (parameters : CreateParameters) (writes : List HandleWrite) : FileOpening :=
  ⟨moment, .named, parameters, 4, writes⟩

/-- `FILE_OPEN` with `FILE_READ_DATA`. -/
def openToRead : CreateParameters := ⟨0x01000000, some 0x00000001⟩

/-- A paging write whose name query fails. -/
def pagingWrite : HandleWrite := ⟨moment, .failed statusInvalidDeviceRequest (by decide), 0, [0]⟩

end Worked

/-- The image opened with `FILE_OVERWRITE` and read access is emptied; through a handle opened for
reading a write of unknown name goes through. -/
theorem contents_changed :
    ¬ (∀ c ∈ (Worked.openTo overwriteToRead []).contents .ascii Worked.imageFile ⟨2, [77, 90]⟩, c = some [77, 90]) ∧
    ¬ (∀ c ∈ (Worked.openTo Worked.openToRead [Worked.pagingWrite]).contents .ascii Worked.imageFile ⟨2, [77, 90]⟩,
      c = some [77, 90]) := by
  decide +kernel

end Lockguard
