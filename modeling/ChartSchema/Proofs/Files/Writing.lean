import ChartSchema.Files.Disk
import ChartSchema.Proofs.Outcome
import Mathlib.Tactic.SplitIfs
/-!
# What writing changes

Two things change a disk. Making a folder lets it grow by folders, at places where nothing was
(`Disk.Grows`), and that is so whether all of them are made or only the first few. Writing a file
puts bytes at one place, to which the path leads from then on (`Disk.Written`). A write that breaks
off does so too, with the first bytes of the text only, unless it was refused before the file was
touched.

What a path leads to is found folder by folder, so a file that is found stays where it is while
folders are made elsewhere (`Disk.Grows.find_file`) and while other files are written
(`Disk.find_put`): this is why a file that was written first can still be read when a later step was
stopped halfway.
-/

namespace ChartSchema.Disk

variable {disk grown later : Disk} {place : Place} {path segment : String} {bytes : ByteArray}

/-! ## Growing -/

/-- **A disk grows by folders**: files are the same, and new folders are where no file is. -/
structure Grows (disk grown : Disk) : Prop where
  /-- Files are the same. -/
  files : grown.files = disk.files
  /-- Relative paths start in the same folder. -/
  here : grown.here = disk.here
  /-- Folders stay. -/
  keeps : ∀ place ∈ disk.folders, place ∈ grown.folders
  /-- A folder that is new takes no file's place. -/
  fresh : ∀ place ∈ grown.folders, place ∈ disk.folders ∨ disk.bytes? place = none

namespace Grows

theorem refl (disk : Disk) : disk.Grows disk := ⟨rfl, rfl, fun _ h => h, fun _ h => .inl h⟩

theorem bytes?_eq (h : disk.Grows grown) (place : Place) :
    grown.bytes? place = disk.bytes? place := by
  unfold bytes?
  rw [h.files]

theorem trans (h : disk.Grows grown) (h' : grown.Grows later) : disk.Grows later where
  files := h'.files.trans h.files
  here := h'.here.trans h.here
  keeps place hplace := h'.keeps place (h.keeps place hplace)
  fresh place hplace := by
    rcases h'.fresh place hplace with hgrown | hnone
    · exact h.fresh place hgrown
    · exact .inr ((h.bytes?_eq place).symm.trans hnone)

/-- A folder that is put where nothing is lets a disk grow. -/
theorem folder (hnone : disk.bytes? place = none) :
    disk.Grows { disk with folders := place :: disk.folders } where
  files := rfl
  here := rfl
  keeps _ h := List.mem_cons_of_mem _ h
  fresh other h := by
    rcases List.mem_cons.mp h with rfl | h
    · exact .inr hnone
    · exact .inl h

theorem isFolder (h : disk.Grows grown) (hfolder : disk.isFolder place = true) :
    grown.isFolder place = true := by
  simp only [Disk.isFolder, Bool.or_eq_true, List.contains_iff_mem] at hfolder ⊢
  exact hfolder.imp_right (h.keeps place)

/-- What has the place of a file becomes no folder. -/
theorem not_isFolder (h : disk.Grows grown) (hfile : disk.bytes? place = some bytes)
    (hfolder : disk.isFolder place = false) : grown.isFolder place = false := by
  simp only [Disk.isFolder, Bool.or_eq_false_iff] at hfolder ⊢
  refine ⟨hfolder.1, Bool.eq_false_iff.mpr fun hgrown => ?_⟩
  rcases h.fresh place (List.contains_iff_mem.mp hgrown) with hold | hnone
  · exact Bool.false_ne_true (hfolder.2.symm.trans (List.contains_iff_mem.mpr hold))
  · exact nomatch hfile.symm.trans hnone

end Grows

/-! ## Where paths lead -/

/-- The place of what is no folder: of a file, or of a name that nothing has. -/
def Target.name? : Target → Option Place
  | .folder _ => none
  | .file place _ | .free place => some place

/-- The bytes of what a path leads to. -/
def Target.bytes? : Target → Option ByteArray
  | .file _ bytes => some bytes
  | .folder _ | .free _ => none

variable {above : Place} {target : Target}

/-- A segment that leads to a folder still leads there if folders stay. -/
theorem step_folder {other : Disk} {next : Place} (h : disk.step above segment = .ok (.folder next))
    (hkeeps : ∀ place, disk.isFolder place = true → other.isFolder place = true) :
    other.step above segment = .ok (.folder next) := by
  unfold step at h ⊢
  dsimp only at h ⊢
  split_ifs at h with hidle hup hlong hfolder
  · rw [if_pos hidle, h]
  · rw [if_neg hidle, if_pos hup, h]
  · rw [if_neg hidle, if_neg hup, if_neg hlong, if_pos (hkeeps _ hfolder), h]
  · split at h <;> exact nomatch h

/-- A segment that leads to no folder leads to a name in the folder, and to the file of this name if
there is one. -/
theorem step_name (other : Disk) (bytes : ByteArray) (h : disk.step above segment = .ok target)
    (hname : target.name? = some place) :
    disk.isFolder place = false ∧ disk.bytes? place = target.bytes? ∧
      (other.isFolder place = false → other.bytes? place = some bytes →
        other.step above segment = .ok (.file place bytes)) := by
  unfold step at h
  dsimp only at h
  split_ifs at h with hidle hup hlong hfolder
  · cases h
    exact nomatch hname
  · cases h
    exact nomatch hname
  · cases h
    exact nomatch hname
  · have hplace : above ++ [segment] = place ∧ disk.bytes? (above ++ [segment]) = target.bytes? := by
      split at h <;> next hfound => cases h; exact ⟨Option.some.inj hname, hfound⟩
    obtain ⟨rfl, hbytes⟩ := hplace
    refine ⟨Bool.eq_false_iff.mpr hfolder, hbytes, fun hother hfile => ?_⟩
    unfold step
    rw [if_neg hidle, if_neg hup, if_neg hlong]
    dsimp only
    rw [hother, hfile]
    rfl

/-- **What a path leads to, if it is no folder, is known by its place**: the same segments lead to
the file at this place of another disk that has the folders. -/
theorem walk_name (other : Disk) (bytes : ByteArray) {segments : List String}
    (h : disk.walk above segments = .ok target)
    (hname : target.name? = some place) :
    disk.isFolder place = false ∧ disk.bytes? place = target.bytes? ∧
      ((∀ place, disk.isFolder place = true → other.isFolder place = true) →
        other.isFolder place = false → other.bytes? place = some bytes →
          other.walk above segments = .ok (.file place bytes)) := by
  induction segments generalizing above with
  | nil =>
    obtain rfl := Except.ok.inj h
    exact nomatch hname
  | cons segment rest ih =>
    cases rest with
    | nil =>
      obtain ⟨hfolder, hbytes, hother⟩ := step_name other bytes h hname
      exact ⟨hfolder, hbytes, fun _ => hother⟩
    | cons after rest =>
      obtain ⟨next, hnext, h⟩ := Outcome.bind_eq_ok.mp h
      cases next with
      | folder next =>
        obtain ⟨hfolder, hbytes, hother⟩ := ih h
        refine ⟨hfolder, hbytes, fun hkeeps hnone hfile => ?_⟩
        exact Outcome.bind_eq_ok.mpr ⟨_, step_folder hnext hkeeps, hother hkeeps hnone hfile⟩
      | file | free => exact nomatch h

/-- What a path leads to, if it is no folder, is known by its place. -/
theorem find_name (other : Disk) (bytes : ByteArray) (h : disk.find path = .ok target)
    (hname : target.name? = some place) :
    disk.isFolder place = false ∧ disk.bytes? place = target.bytes? ∧
      (other.here = disk.here →
        (∀ place, disk.isFolder place = true → other.isFolder place = true) →
          other.isFolder place = false → other.bytes? place = some bytes →
            other.find path = .ok (.file place bytes)) := by
  unfold find at h ⊢
  split_ifs at h ⊢ with hnul hempty
  obtain ⟨hfolder, hbytes, hother⟩ := walk_name other bytes h hname
  refine ⟨hfolder, hbytes, fun hhere hkeeps => ?_⟩
  unfold start
  rw [hhere]
  exact hother hkeeps

/-- **A file that is found stays where it is** while a disk grows. -/
theorem Grows.find_file (h : disk.Grows grown) (hfind : disk.find path = .ok (.file place bytes)) :
    grown.find path = .ok (.file place bytes) := by
  obtain ⟨hfolder, hbytes, hother⟩ := find_name grown bytes hfind rfl
  exact hother h.here (fun _ => h.isFolder) (h.not_isFolder hbytes hfolder)
    ((h.bytes?_eq place).trans hbytes)

/-- A file with the bytes of a text is read as this text. -/
theorem read_of_find {text : String} (h : disk.find path = .ok (.file place text.toUTF8)) :
    disk.read path = .ok text := by
  have htext : String.fromUTF8? text.toUTF8 = some text := dif_pos text.isValidUTF8
  unfold read
  rw [h]
  dsimp only [bind, Except.bind]
  rw [htext]
  rfl

/-! ## Writing a file -/

theorem bytes?_put (disk : Disk) (place : Place) (bytes : ByteArray) :
    (disk.put place bytes).bytes? place = some bytes := by
  simp [bytes?, put]

theorem bytes?_put_ne (disk : Disk) (bytes : ByteArray) {place at' : Place} (h : at' ≠ place) :
    (disk.put place bytes).bytes? at' = disk.bytes? at' := by
  have hput : (place == at') = false := beq_false_of_ne (Ne.symm h)
  rw [bytes?, bytes?, put, List.find?_cons, hput, List.find?_filter]
  dsimp only
  congr 2
  funext file
  by_cases hfile : file.1 = at' <;> simp [hfile, h]

/-- **A file that is found stays where it is** while files are written. It keeps its bytes unless it is
the one that is written. -/
theorem find_put (h : disk.find path = .ok (.file place bytes)) (at' : Place) (new : ByteArray) :
    ∃ left, (disk.put at' new).find path = .ok (.file place left) ∧ (at' ≠ place → left = bytes) := by
  have hleft (left : ByteArray) (hput : (disk.put at' new).bytes? place = some left) :
      (disk.put at' new).find path = .ok (.file place left) := by
    obtain ⟨hfolder, -, hother⟩ := find_name (disk.put at' new) left h rfl
    exact hother rfl (fun _ h => h) hfolder hput
  by_cases hat : at' = place
  · exact ⟨new, hleft new (hat ▸ bytes?_put disk at' new), fun hne => absurd hat hne⟩
  · obtain ⟨-, hbytes, -⟩ := find_name disk bytes h rfl
    exact ⟨bytes, hleft bytes ((bytes?_put_ne disk new (Ne.symm hat)).trans hbytes), fun _ => rfl⟩

/-- A file that is found is found behind another write, on a disk that has grown in between. -/
theorem Grows.find_put (h : disk.Grows grown) (hfind : disk.find path = .ok (.file place bytes))
    (at' : Place) (new : ByteArray) :
    ∃ left, (grown.put at' new).find path = .ok (.file place left) ∧ (at' ≠ place → left = bytes) :=
  Disk.find_put (h.find_file hfind) at' new

theorem Grows.bytes?_put_ne (h : disk.Grows grown) (bytes : ByteArray) {other : Place}
    (hother : other ≠ place) : (grown.put place bytes).bytes? other = disk.bytes? other :=
  (Disk.bytes?_put_ne grown bytes hother).trans (h.bytes?_eq other)

/-- Where a file can be written, the path leads to what is put there. -/
theorem find_put_of_writable (h : disk.writable path = .ok place) (bytes : ByteArray) :
    (disk.put place bytes).find path = .ok (.file place bytes) := by
  have hput {target : Target} (hfind : disk.find path = .ok target)
      (hname : target.name? = some place) :
      (disk.put place bytes).find path = .ok (.file place bytes) := by
    obtain ⟨hfolder, -, hother⟩ := find_name (disk.put place bytes) bytes hfind hname
    exact hother rfl (fun _ h => h) hfolder (bytes?_put disk place bytes)
  unfold writable at h
  split at h
  · -- A path that ends with a slash names no file, whatever it leads to.
    obtain ⟨-, -, h⟩ := Outcome.bind_eq_ok.mp h
    exact nomatch h
  obtain ⟨target, hfind, h⟩ := Outcome.bind_eq_ok.mp h
  cases target with
  | folder => exact nomatch h
  | file place old =>
    obtain rfl := Outcome.pure_eq_ok.mp h
    exact hput hfind rfl
  | free place =>
    obtain rfl := Outcome.pure_eq_ok.mp h
    exact hput hfind rfl

/-- **What comes of writing a text to a file.** All of it stands where the path leads, or only its
beginning does because the write broke off, or the write was refused and nothing happened. -/
inductive Written (path text : String) (disk : Disk) : Except FileFault Unit × Disk → Prop
  /-- The text stands where the path leads. -/
  | done {place : Place} :
    (disk.put place text.toUTF8).find path = .ok (.file place text.toUTF8) →
      Written path text disk (.ok (), disk.put place text.toUTF8)
  /-- The first bytes do, and there are more. -/
  | broken {fault : FileFault} {written : Nat} {place : Place} : written < text.utf8ByteSize →
    (disk.put place (beginning text written)).find path =
      .ok (.file place (beginning text written)) →
      Written path text disk (.error fault, disk.put place (beginning text written))
  /-- The file was not touched. -/
  | refused {fault : FileFault} : Written path text disk (.error fault, disk)

/-- **Every write comes out in one of these ways**, whatever befalls it. -/
theorem written_write (disk : Disk) (mishap? : Option Mishap) (path text : String) :
    Written path text disk (disk.write mishap? path text) := by
  unfold write
  cases hplace : disk.writable path with
  | error fault => exact .refused
  | ok place =>
    have hdone := find_put_of_writable hplace text.toUTF8
    dsimp only
    split
    · exact .refused
    · next written reason =>
      split
      · next hless => exact .broken hless (find_put_of_writable hplace _)
      · exact .done hdone
    · exact .done hdone

/-! ## Making a folder -/

/-- **Making folders lets a disk grow by folders**, also where only some of them are made: each one is
made where nothing is. -/
theorem grows_makeAlong (disk : Disk) (mishap? : Option Mishap) (made : Nat) (above : Place)
    (segments : List String) : disk.Grows (disk.makeAlong mishap? made above segments).2 := by
  induction segments generalizing disk above made with
  | nil => exact .refl disk
  | cons segment rest ih =>
    unfold makeAlong
    cases htarget : disk.step above segment with
    | error fault => exact .refl disk
    | ok target =>
      cases target with
      | folder next => exact ih disk made next
      | file => exact .refl disk
      | free next =>
        obtain ⟨-, hfree, -⟩ := step_name disk .empty htarget rfl
        dsimp only
        split
        · exact .refl disk
        · exact (Grows.folder hfree).trans (ih _ _ _)

theorem grows_makeFolder (disk : Disk) (mishap? : Option Mishap) (path : String) :
    disk.Grows (disk.makeFolder mishap? path).2 := by
  unfold makeFolder
  split_ifs
  · exact .refl disk
  · exact grows_makeAlong disk mishap? 0 _ _

end ChartSchema.Disk
