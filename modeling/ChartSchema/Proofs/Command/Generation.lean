import ChartSchema.Command.Program
import ChartSchema.Proofs.Command.Run
/-!
# All or nothing

Generating makes both products before it writes any, so whatever is wrong with the project, the
values document, the definition that is there, or with the new one by the policy, is found while
nothing was changed yet (`Generate.plan_reads`). The writes themselves are two plain steps: the
definition is written, then the JSON Schema. Neither is taken back when something fails later, and
neither is done at once: a file is emptied first and then filled, so a disk without room leaves the
beginning of a text where the old file was. These are the places where a failing run is not all or
nothing (`Program.not_allOrNothing`).

`Program.generate_keeps_files` says that they are the only ones, for all that can befall the disk and
all that cannot be printed. A run that fails leaves every file as it was, unless it was interrupted
when it had begun to write (`Generate.Interrupted`): in the definition, between the two files, in the
JSON Schema, or when it told what it had written. Every file but these two is as it was then too, and
the definition is complete once the JSON Schema is begun.
-/

namespace ChartSchema

open Command (Reads Wrote)

variable {request : Arguments.GenerateRequest} {session : Session}

theorem Project.load_reads (chart : String) : Reads (Project.load (m := StateM Session) chart) := by
  unfold Project.load
  refine (Reads.present _).bind fun present => ?_
  cases present with
  | false => exact .pure _
  | true =>
    refine (Reads.read _).bind fun text => ?_
    split
    · exact .pure _
    · exact .throw _

namespace Generate

/-! ## Before anything is written -/

theorem previous?_reads (path : String) : Reads (previous? (m := StateM Session) path) := by
  unfold previous?
  refine (Reads.present _).bind fun present => ?_
  cases present with
  | false => exact .pure _
  | true => exact (Reads.read _).bind fun text => (Reads.ofResult _).bind fun _ => .pure _

theorem prepare_reads (project : Project) (request : Arguments.GenerateRequest) :
    Reads (prepare (m := StateM Session) project request) := by
  unfold prepare
  refine (Reads.read _).bind fun text => (Reads.ofResult _).bind fun ⟨name, crd, jsonSchema⟩ => ?_
  exact (previous?_reads _).bind fun old? => (Reads.ofResult _).bind fun _ => .pure _

/-- Showing what changes reads only, whatever the policy decides. -/
theorem checkCompatibility_reads (analysis : Analysis) (policy : Policy) (yes : Bool) :
    Reads (checkCompatibility (m := StateM Session) analysis policy yes) := by
  unfold checkCompatibility
  cases policy.decide analysis with
  | accept =>
    dsimp only
    split
    · exact .pure _
    · exact (Reads.note _).bind fun _ => .pure _
  | reject reason blocking =>
    have hrejected (message : String) : Reads (do
        Command.note (m := StateM Session) message
        if yes then Command.note "  Continuing because of --yes\n"
        else throw (.breakingChange reason)) := by
      refine (Reads.note _).bind fun _ => ?_
      split
      · exact .note _
      · exact .throw _
    dsimp only
    split
    · exact hrejected _
    · exact (Reads.note _).bind fun _ => hrejected _

theorem display_reads (products : Products) : Reads (display (m := StateM Session) products) :=
  (Reads.print _).bind fun _ => .print _

/-- **All that is done before anything is written**: the products are made and checked. -/
def plan {m : Type → Type} [Monad m] [Host m] (request : Arguments.GenerateRequest) :
    Command m Products := do
  let project := withRequest (← Project.load request.chart) request
  Command.note ("→ Generating from " ++ valuesPath request ++ "\n")
  let products ← prepare project request
  checkCompatibility products.analysis project.compatibility request.yes
  return products

theorem plan_reads (request : Arguments.GenerateRequest) :
    Reads (plan (m := StateM Session) request) := by
  unfold plan
  refine (Project.load_reads _).bind fun project => (Reads.note _).bind fun _ => ?_
  exact (prepare_reads _ _).bind fun products =>
    (checkCompatibility_reads _ _ _).bind fun _ => .pure _

/-- **A run is its plan, and then the products are printed or written.** So everything that can go
wrong before a file is touched goes wrong in the plan. -/
theorem run_eq (request : Arguments.GenerateRequest) :
    run (m := StateM Session) request = plan request >>= fun products =>
      if request.dryRun then display products else commit products := by
  unfold run plan
  simp only [bind_assoc, pure_bind]

/-! ## Writing the products -/

/-- **What a run leaves that was interrupted when it had begun to write**, on a disk that was an old one
before. The products are fixed by then, so there are four ways, one for each place in which a run can
end early after it changed a file. -/
inductive Interrupted (products : Products) (old disk : Disk) : Failure → Prop
  /-- In the definition: a beginning of its text is in its file, and every other file is as before. -/
  | definition {place : Disk.Place} {written : Nat} {fault : FileFault} :
    written < products.crdText.utf8ByteSize →
    disk.find products.crdPath = .ok (.file place (Disk.beginning products.crdText written)) →
    (∀ other, other ≠ place → disk.bytes? other = old.bytes? other) →
      Interrupted products old disk (.file products.crdPath fault)
  /-- Between the two: the definition is complete, and every other file is as before. The failure is
  that of the JSON Schema, or of its folder. -/
  | between {place : Disk.Place} {location : String} {fault : FileFault} :
    (location = products.jsonSchemaPath ∨ Path.folder? products.jsonSchemaPath = some location) →
    disk.find products.crdPath = .ok (.file place products.crdText.toUTF8) →
    (∀ other, other ≠ place → disk.bytes? other = old.bytes? other) →
      Interrupted products old disk (.file location fault)
  /-- In the JSON Schema: a beginning of its text is in its file, the definition is complete unless
  both paths lead to one file, and every other file is as before. -/
  | jsonSchema {place schemaPlace : Disk.Place} {left : ByteArray} {written : Nat}
    {fault : FileFault} : written < products.jsonSchemaText.utf8ByteSize →
    disk.find products.jsonSchemaPath =
      .ok (.file schemaPlace (Disk.beginning products.jsonSchemaText written)) →
    disk.find products.crdPath = .ok (.file place left) →
    (schemaPlace ≠ place → left = products.crdText.toUTF8) →
    (∀ other, other ≠ place → other ≠ schemaPlace → disk.bytes? other = old.bytes? other) →
      Interrupted products old disk (.file products.jsonSchemaPath fault)
  /-- Behind both: the JSON Schema is complete, the definition too unless both paths lead to one file,
  and every other file is as before. Only that they were written could not be printed. -/
  | told {place schemaPlace : Disk.Place} {left : ByteArray} :
    disk.find products.jsonSchemaPath = .ok (.file schemaPlace products.jsonSchemaText.toUTF8) →
    disk.find products.crdPath = .ok (.file place left) →
    (schemaPlace ≠ place → left = products.crdText.toUTF8) →
    (∀ other, other ≠ place → other ≠ schemaPlace → disk.bytes? other = old.bytes? other) →
      Interrupted products old disk .unprinted

/-- **Where writing the products fails**, no file was changed, or the run was interrupted in one of
these ways. The cases are those of the two writes (`Command.wrote_write`); what was found by the first
path is found again behind the second write. -/
theorem commit_error {products : Products} {failure : Failure} {later : Session}
    (h : (commit products).on session = (.error failure, later)) :
    (∀ place, later.disk.bytes? place = session.disk.bytes? place) ∨
      Interrupted products session.disk later.disk failure := by
  unfold commit at h
  have hcrd := Command.wrote_write products.crdPath products.crdText session
  generalize hfirst : (Command.write products.crdPath products.crdText).on session = first at hcrd
  cases hcrd with
  | refused hgrows =>
    rw [Command.on_bind_error hfirst] at h
    cases h
    exact .inl hgrows.bytes?_eq
  | broken hgrows hless hdisk hfind =>
    rw [Command.on_bind_error hfirst] at h
    cases h
    exact .inr (.definition hless hfind fun other hother => hdisk ▸ hgrows.bytes?_put_ne _ hother)
  | @done grown place written hgrows hdisk hfind =>
    rw [Command.on_bind_ok hfirst] at h
    have hothers (other : Disk.Place) (hother : other ≠ place) :
        written.disk.bytes? other = session.disk.bytes? other :=
      hdisk ▸ hgrows.bytes?_put_ne _ hother
    -- The second write starts from a disk where the definition is found already.
    have hschema := Command.wrote_write products.jsonSchemaPath products.jsonSchemaText written
    generalize hsecond : (Command.write products.jsonSchemaPath products.jsonSchemaText).on
      written = second at hschema
    cases hschema with
    | refused hgrows' hlocation =>
      rw [Command.on_bind_error hsecond] at h
      cases h
      refine .inr (.between hlocation (hgrows'.find_file hfind) fun other hother => ?_)
      rw [hgrows'.bytes?_eq, hothers other hother]
    | @broken grown' schemaPlace _ _ _ hgrows' hless hdisk' hfind' =>
      rw [Command.on_bind_error hsecond] at h
      cases h
      obtain ⟨left, hleft, hsame⟩ := hgrows'.find_put hfind schemaPlace
        (Disk.beginning products.jsonSchemaText _)
      refine .inr (.jsonSchema hless hfind' (hdisk' ▸ hleft) hsame fun other hother hschema => ?_)
      rw [hdisk', hgrows'.bytes?_put_ne _ hschema, hothers other hother]
    | @done grown' schemaPlace both hgrows' hdisk' hfind' =>
      rw [Command.on_bind_ok hsecond] at h
      obtain ⟨rfl, htold⟩ := ((Command.Tells.print _).bind (.print _)).of_error h
      obtain ⟨left, hleft, hsame⟩ := hgrows'.find_put hfind schemaPlace
        products.jsonSchemaText.toUTF8
      rw [← hdisk', ← htold] at hleft
      rw [← htold] at hfind'
      refine .inr (.told hfind' hleft hsame fun other hother hschema => ?_)
      rw [htold, hdisk', hgrows'.bytes?_put_ne _ hschema, hothers other hother]

end Generate

namespace Program

/-! ## Runs of the program -/

/-- What comes of a command line on a session, and the session behind it. -/
def on (arguments : List String) (session : Session) : Outcome × Session :=
  (Program.run arguments : StateM Session Outcome).run session

variable {arguments : List String}

theorem on_done {asked : Arguments.Request} {later : Session}
    (h : Arguments.parse arguments = .ok asked)
    (hrun : (perform asked).on session = (.ok (), later)) :
    on arguments session = (.done, later) := by
  unfold Command.on at hrun
  unfold on run
  rw [h]
  dsimp only
  rw [StateT.run_bind, hrun]
  rfl

theorem on_failed {asked : Arguments.Request} {failure : Failure} {later : Session}
    (h : Arguments.parse arguments = .ok asked)
    (hrun : (perform asked).on session = (.error failure, later)) :
    on arguments session = (.failed failure, later) := by
  unfold Command.on at hrun
  unfold on run
  rw [h]
  dsimp only
  rw [StateT.run_bind, hrun]
  rfl

/-- **Generating keeps files.** A dry run changes nothing on the disk. A run that fails leaves every
file as it was, unless the products were made and accepted and the run was interrupted when it had
begun to write them: then a beginning of the definition is in its file, or all of it, and in the latter
case a beginning of the JSON Schema may be in its own, or all of it if only the telling failed, but
every other file is as it was. -/
theorem generate_keeps_files (h : Arguments.parse arguments = .ok (.generate request))
    (session : Session) :
    (request.dryRun = true → (on arguments session).2.disk = session.disk) ∧
      ((on arguments session).1.exitCode ≠ 0 →
        (∀ place, (on arguments session).2.disk.bytes? place = session.disk.bytes? place) ∨
          ∃ products failure, ((Generate.plan request).on session).1 = .ok products ∧
            (on arguments session).1 = .failed failure ∧
            Generate.Interrupted products session.disk (on arguments session).2.disk failure) := by
  have hplan := Generate.plan_reads request session
  have hrun : perform (m := StateM Session) (.generate request) =
      Generate.plan request >>= fun products =>
        if request.dryRun then Generate.display products else Generate.commit products :=
    Generate.run_eq request
  cases hplanned : (Generate.plan request).on session with
  | mk result planned =>
    rw [hplanned] at hplan
    have hplanned' : planned.disk = session.disk := hplan
    cases result with
    | error failure =>
      rw [on_failed h (hrun ▸ Command.on_bind_error hplanned)]
      exact ⟨fun _ => hplanned', fun _ => .inl fun place => by rw [hplanned']⟩
    | ok products =>
      have hrest : (perform (.generate request)).on session =
          (if request.dryRun then Generate.display products else Generate.commit products).on
            planned := hrun ▸ Command.on_bind_ok hplanned
      cases hdry : request.dryRun with
      | true =>
        rw [if_pos hdry] at hrest
        have hkept : ((perform (.generate request)).on session).2.disk = session.disk := by
          rw [hrest, Generate.display_reads products planned, hplanned']
        have hdisk : (on arguments session).2.disk = session.disk := by
          cases hended : (perform (.generate request)).on session with
          | mk result later =>
            rw [hended] at hkept
            cases result with
            | ok => rw [on_done h hended, hkept]
            | error => rw [on_failed h hended, hkept]
        exact ⟨fun _ => hdisk, fun _ => .inl fun place => by rw [hdisk]⟩
      | false =>
        rw [if_neg (hdry ▸ Bool.false_ne_true)] at hrest
        refine ⟨nofun, fun hcode => ?_⟩
        cases hended : (Generate.commit products).on planned with
        | mk result later =>
          cases result with
          | ok =>
            rw [on_done h (hrest.trans hended)] at hcode
            exact absurd rfl hcode
          | error failure =>
            rw [on_failed h (hrest.trans hended)]
            rw [← hplanned']
            exact (Generate.commit_error hended).imp_right fun hinterrupted =>
              ⟨products, failure, rfl, rfl, hinterrupted⟩

/-! A folder that has the name of the JSON Schema stops a run between the writes, and a full disk stops
it within one. -/

/-- Whether a command line asks for products. -/
def asksForProducts (arguments : List String) : Bool :=
  match Arguments.parse arguments with
  | .ok (.generate _) => true
  | _ => false

/-- What a command line asks for, if it asks for products. -/
theorem exists_request (h : asksForProducts arguments = true) :
    ∃ request, Arguments.parse arguments = .ok (.generate request) := by
  unfold asksForProducts at h
  split at h
  · next request hparse => exact ⟨request, hparse⟩
  · exact nomatch h

/-- A chart with a values document. -/
def benchSession : Session :=
  { disk := .ofFiles ["work"] [("values.yaml", "apiVersion: a.io/v1\nkind: Bench\nseats: 2\n")] }

/-- A command line by which the JSON Schema takes the name of the folder of definitions. -/
def benchArguments : List String := ["generate", "--schema-out", "crds"]

/-- Such a run keeps files but the definition. -/
theorem generate_keeps_files_bench : ∃ request,
    Arguments.parse benchArguments = .ok (.generate request) ∧
      (request.dryRun = true → (on benchArguments benchSession).2.disk = benchSession.disk) ∧
      ((on benchArguments benchSession).1.exitCode ≠ 0 →
        (∀ place, (on benchArguments benchSession).2.disk.bytes? place =
          benchSession.disk.bytes? place) ∨
          ∃ products failure, ((Generate.plan request).on benchSession).1 = .ok products ∧
            (on benchArguments benchSession).1 = .failed failure ∧
            Generate.Interrupted products benchSession.disk (on benchArguments benchSession).2.disk
              failure) := by
  have hasks : asksForProducts benchArguments = true := by decide +kernel
  obtain ⟨request, h⟩ := exists_request hasks
  exact ⟨request, h, generate_keeps_files h benchSession⟩

/-- A chart with an old JSON Schema. Of the changes of its disk so many are safe, and the next one is
stopped behind its first step: a file is open then, and still empty. -/
def fullSession (safe : Nat) : Session where
  disk := .ofFiles ["work"] [("values.yaml", "apiVersion: a.io/v1\nkind: Bench\nseats: 2\n"),
    ("values.schema.json", "{}")]
  mishaps := List.replicate safe none ++ [some ⟨1, "No space left on device (os error 28)"⟩]

/-- **Generating is not all or nothing.** A run that ends with exit code 5 because a folder has the
name of the JSON Schema leaves a definition where there was none. If the disk is full when the
definition is written, an empty one is left, and if it is full when the JSON Schema is written, the old
one is lost. -/
theorem not_allOrNothing :
    (¬ ∀ (arguments : List String) (request : Arguments.GenerateRequest) (session : Session),
      Arguments.parse arguments = .ok (.generate request) →
        (request.dryRun = true → (on arguments session).2.disk = session.disk) ∧
        ((on arguments session).1.exitCode ≠ 0 →
          ∀ place, (on arguments session).2.disk.bytes? place = session.disk.bytes? place)) ∧
      ((on ["generate"] (fullSession 1)).1.exitCode = 5 ∧
        (on ["generate"] (fullSession 1)).2.disk.bytes? ["work", "crds", "benches.a.io.yaml"] =
          some .empty) ∧
      (on ["generate"] (fullSession 3)).1.exitCode = 5 ∧
        (on ["generate"] (fullSession 3)).2.disk.bytes? ["work", "values.schema.json"] =
          some .empty := by
  refine ⟨fun h => ?_, by decide +kernel, by decide +kernel⟩
  have hasks : asksForProducts benchArguments = true := by decide +kernel
  obtain ⟨request, hparse⟩ := exists_request hasks
  have hcode : (on benchArguments benchSession).1.exitCode ≠ 0 := by decide +kernel
  have hsame := (h benchArguments request benchSession hparse).2 hcode
    ["work", "crds", "benches.a.io.yaml"]
  have hnone : benchSession.disk.bytes? ["work", "crds", "benches.a.io.yaml"] = none := by
    decide +kernel
  have hsome : ((on benchArguments benchSession).2.disk.bytes?
      ["work", "crds", "benches.a.io.yaml"]).isSome = true := by decide +kernel
  rw [hsame, hnone] at hsome
  exact nomatch hsome

end Program
end ChartSchema
