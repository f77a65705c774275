import ChartSchema.Command.Basic
import ChartSchema.Proofs.Files.Writing
/-!
# Commands on a session

A command on a `Session` gives a result and the session behind it (`Command.on`). Where the result
is an error, the steps behind it are left out and the session is that of the step that failed, so
nothing is taken back: what a command does to the disk is what its steps do, one after the other.

Most commands read only (`Command.Reads`), whatever their result. Printing does not change the disk
either, but it may fail, also behind a step that changed files (`Command.Tells`). Writing a file is the
one step that changes files, and it changes one: where it succeeds the text stands where the path
leads, and where it breaks off a beginning of the text may stand there (`Command.wrote_write`).
-/

namespace ChartSchema.Command

variable {α β : Type} {c : Command (StateM Session) α} {f : α → Command (StateM Session) β}
  {session later : Session}

/-- What a command gives on a session, and the session behind it. -/
def on (c : Command (StateM Session) α) (session : Session) : Except Failure α × Session :=
  StateT.run (ExceptT.run c) session

/-! ## Step by step -/

/-- Behind a step that fails there is none. -/
theorem on_bind_error {failure : Failure} (h : c.on session = (.error failure, later)) :
    (c >>= f).on session = (.error failure, later) := by
  unfold on at h ⊢
  rw [ExceptT.run_bind, StateT.run_bind, h]
  rfl

/-- A step goes on with what the one before it gave. -/
theorem on_bind_ok {a : α} (h : c.on session = (.ok a, later)) :
    (c >>= f).on session = (f a).on later := by
  unfold on at h ⊢
  rw [ExceptT.run_bind, StateT.run_bind, h]
  rfl

/-- A result that does not depend on the machine is given on any session. -/
theorem on_ofResult {result given : Except Failure α} (h : result = given) (session : Session) :
    on (ofResult result) session = (given, session) := congrArg (·, session) h

/-! ## Commands that read only -/

/-- **A command that reads only** leaves the disk as it is, whatever its result. -/
def Reads (c : Command (StateM Session) α) : Prop := ∀ session, (c.on session).2.disk = session.disk

theorem Reads.pure (a : α) : Reads (Pure.pure a) := fun _ => rfl

theorem Reads.throw (failure : Failure) : Reads (throw failure : Command (StateM Session) α) :=
  fun _ => rfl

theorem Reads.ofResult (result : Except Failure α) :
    Reads (ofResult result : Command (StateM Session) α) := fun _ => rfl

/-- **Steps that read only, one after the other**, read only. Where the first one fails, the second
one is not run. -/
theorem Reads.bind (hc : c.Reads) (hf : ∀ a, (f a).Reads) : (c >>= f).Reads := by
  intro session
  have hfirst := hc session
  cases hrun : c.on session with
  | mk result later =>
    rw [hrun] at hfirst
    cases result with
    | error failure =>
      rw [on_bind_error hrun]
      exact hfirst
    | ok a =>
      rw [on_bind_ok hrun]
      exact (hf a later).trans hfirst

/-- Looking whether a path leads to something is to read only. -/
theorem Reads.present (path : String) : Reads (present path : Command (StateM Session) Bool) :=
  fun _ => rfl

theorem Reads.read (path : String) : Reads (read path : Command (StateM Session) String) :=
  fun _ => rfl

/-! ## Commands that only print -/

/-- What comes of printing: it succeeds, or something could not be printed. -/
def IsTold (result : Except Failure Unit) : Prop := result = .ok () ∨ result = .error .unprinted

/-- **A command that only prints** leaves the disk as it is. Unlike a command that reads it fails in one
way only, and it may stand behind a step that changed files. -/
def Tells (c : Command (StateM Session) Unit) : Prop :=
  ∀ session, IsTold (c.on session).1 ∧ (c.on session).2.disk = session.disk

theorem Tells.reads {c : Command (StateM Session) Unit} (h : c.Tells) : c.Reads :=
  fun session => (h session).2

theorem Tells.of_error {c : Command (StateM Session) Unit} (h : c.Tells) {failure : Failure}
    (hrun : c.on session = (.error failure, later)) :
    failure = .unprinted ∧ later.disk = session.disk := by
  obtain ⟨htold, hdisk⟩ := h session
  rw [hrun] at htold hdisk
  refine ⟨?_, hdisk⟩
  rcases htold with hok | herror
  · cases hok
  · exact Except.error.inj herror

/-- Printing on a session is telling, whether the text is lost or not. -/
theorem Tells.say {printed : Session → Session}
    (h : ∀ session, (printed session).disk = session.disk) :
    Tells (ofPrint (Session.say printed)) := by
  intro session
  have hon : (ofPrint (Session.say printed)).on session =
      (if (Session.say printed session).1 then .ok () else .error .unprinted,
        (Session.say printed session).2) := rfl
  rw [hon]
  unfold Session.say
  dsimp only
  split
  · exact ⟨.inr rfl, rfl⟩
  · exact ⟨.inl rfl, h _⟩

theorem Tells.print (text : String) : Tells (print text) := .say fun _ => rfl

theorem Tells.note (text : String) : Tells (note text) := .say fun _ => rfl

theorem Reads.print (text : String) : Reads (print text) := (Tells.print text).reads

theorem Reads.note (text : String) : Reads (note text) := (Tells.note text).reads

theorem Tells.bind {first second : Command (StateM Session) Unit} (h : first.Tells)
    (h' : second.Tells) : (first >>= fun _ => second).Tells := by
  intro session
  obtain ⟨htold, hdisk⟩ := h session
  cases hfirst : first.on session with
  | mk result later =>
    rw [hfirst] at htold hdisk
    cases result with
    | error failure =>
      rw [on_bind_error hfirst]
      exact ⟨htold, hdisk⟩
    | ok =>
      rw [on_bind_ok hfirst]
      exact ⟨(h' later).1, (h' later).2.trans hdisk⟩

/-! ## Writing -/

/-- A step that changes the disk is stopped by what befalls it, if anything does, and leaves what was
done by then. -/
theorem on_change (path : String)
    (step : Disk → Option Disk.Mishap → Except FileFault Unit × Disk) (session : Session) :
    ∃ mishap? later, (ofFile path (Session.change step)).on session =
        ((step session.disk mishap?).1.mapError (.file path), later) ∧
      later.disk = (step session.disk mishap?).2 :=
  ⟨session.mishaps.head?.join, _, rfl, rfl⟩

/-- **What comes of writing a file and its folder**, on a disk that was an old one before. Folders may
have been made in any case, and besides at most one file is changed, the one to which the path leads
from then on. -/
inductive Wrote (path text : String) (old : Disk) : Except Failure Unit × Session → Prop
  /-- The text stands where the path leads. -/
  | done {grown : Disk} {place : Disk.Place} {later : Session} : old.Grows grown →
    later.disk = grown.put place text.toUTF8 →
    later.disk.find path = .ok (.file place text.toUTF8) →
      Wrote path text old (.ok (), later)
  /-- Writing broke off: a beginning of the text stands there, and not all of it. -/
  | broken {grown : Disk} {place : Disk.Place} {fault : FileFault} {written : Nat}
    {later : Session} : old.Grows grown → written < text.utf8ByteSize →
    later.disk = grown.put place (Disk.beginning text written) →
    later.disk.find path = .ok (.file place (Disk.beginning text written)) →
      Wrote path text old (.error (.file path fault), later)
  /-- The folder or the file was refused. -/
  | refused {location : String} {fault : FileFault} {later : Session} : old.Grows later.disk →
    (location = path ∨ Path.folder? path = some location) →
      Wrote path text old (.error (.file location fault), later)

/-- Where the folder is there, the file is written. -/
theorem wrote_file {path text : String} {old : Disk} (h : old.Grows session.disk) :
    Wrote path text old
      ((ofFile path (Host.write path text) : Command (StateM Session) Unit).on session) := by
  obtain ⟨mishap?, later, hrun, hdisk⟩ := on_change path (·.write · path text) session
  have hwritten := Disk.written_write session.disk mishap? path text
  generalize session.disk.write mishap? path text = ended at hrun hdisk hwritten
  have hrun' : (ofFile path (Host.write path text) : Command (StateM Session) Unit).on session =
    (ended.1.mapError (.file path), later) := hrun
  rw [hrun']
  cases hwritten with
  | done hfind => exact .done h hdisk (hdisk ▸ hfind)
  | broken hless hfind => exact .broken h hless hdisk (hdisk ▸ hfind)
  | refused => exact .refused (hdisk ▸ h) (.inl rfl)

/-- **Writing a file** puts the text where the path leads, or it stops before that. The folder is
made first, if it is not there, and either of the two steps may be the one that stops. -/
theorem wrote_write (path text : String) (session : Session) :
    Wrote path text session.disk ((write path text).on session) := by
  have hstay : Wrote path text session.disk
      ((ofFile path (Host.write path text) : Command (StateM Session) Unit).on session) :=
    wrote_file (.refl _)
  unfold write
  split
  · exact hstay
  · exact hstay
  · next folder _ hfolder =>
    obtain ⟨mishap?, later, hrun, hdisk⟩ := on_change folder (·.makeFolder · folder) session
    have hgrows : session.disk.Grows later.disk :=
      hdisk ▸ Disk.grows_makeFolder session.disk mishap? folder
    have hmake : (ofFile folder (Host.makeFolder folder) : Command (StateM Session) Unit).on
      session = _ := hrun
    cases hmade : (session.disk.makeFolder mishap? folder).1 with
    | error fault =>
      rw [hmade] at hmake
      rw [on_bind_error hmake]
      exact .refused hgrows (.inr hfolder)
    | ok =>
      rw [hmade] at hmake
      rw [on_bind_ok hmake]
      exact wrote_file hgrows

end ChartSchema.Command
