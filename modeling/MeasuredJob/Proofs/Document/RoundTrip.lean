import MeasuredJob.Container.Document
import MeasuredJob.Declaration.Document
import MeasuredJob.JobGroup
import MeasuredJob.Proofs.Document.Fields
import MeasuredJob.Settings
import MeasuredJob.Volume

/-!
# Values and documents

What is written of a value is read back as the value, by each of the types that are written.  What
is left out has the default that it is left out for.  A field that a type does not declare changes
nothing, wherever it is added.
-/

namespace MeasuredJob

open Document

/-! ## Options and declarations -/

def OptionBag.shape : Shape := .fields ["options", "mapOptions"] []

theorem OptionBag.decode_encode (bag : OptionBag) : decode .message bag.encode = some bag := by
  simp [encode, encodeFields, decode, decodeFields, Table.lookup_pair, OptionValue.decode_encode]

theorem OptionBag.ignores : shape.Ignores (decode .message) := by
  refine Shape.ignores_record (fun _ => rfl) fun fields => ?_
  simp (disch := simp) only [decodeFields, defaulting_restrict]

def PluginUse.shape : Shape := .fields ["name", "options", "mapOptions"] []

theorem PluginUse.decode_encode (use : PluginUse) : decode .message use.encode = some use := by
  simp [encode, OptionBag.encodeFields, decode, optionFields, OptionBag.decodeFields,
    Table.lookup_pair, OptionValue.decode_encode]

@[simp] theorem PluginUse.ignores : shape.Ignores (decode .message) := by
  refine Shape.ignores_record (fun _ => rfl) fun fields => ?_
  simp (disch := simp) only [optionFields, OptionBag.decodeFields, required_restrict,
    defaulting_restrict, Option.bind_eq_bind, Option.bind_some]

def Application.shape : Shape :=
  .fields ["image", "command", "entrypoint", "workingDir", "pullSecret"] []

theorem Application.decode_encode (app : Application) : decode .message app.encode = some app := by
  simp [encode, decode, Table.lookup_pair]

@[simp] theorem Application.ignores : shape.Ignores (decode .message) := by
  refine Shape.ignores_record (fun _ => rfl) fun fields => ?_
  simp (disch := simp) only [defaulting_restrict, optional_restrict]

def Logging.shape : Shape := .fields ["interactive"] []

theorem Logging.decode_encode (logging : Logging) :
    decode .message logging.encode = some logging := by
  simp [encode, decode]

@[simp] theorem Logging.ignores : shape.Ignores (decode .message) := by
  refine Shape.ignores_record (fun _ => rfl) fun fields => ?_
  simp (disch := simp) only [defaulting_restrict]

def Declaration.shape : Shape :=
  .fields ["pods", "application", "logging", "metrics", "addons"] [
    ("application", Application.shape), ("logging", Logging.shape),
    ("metrics", .list PluginUse.shape), ("addons", .list PluginUse.shape)]

theorem Declaration.encode_eq (decl : Declaration) :
    decl.encode = .record (written [
      ("pods", some (.int decl.pods.toNat)),
      ("application", decl.application.map Application.encode),
      ("logging", some decl.logging.encode),
      ("metrics", some (.list (decl.metrics.map PluginUse.encode))),
      ("addons", some (.list (decl.addons.map PluginUse.encode)))]) := by
  rw [encode]
  cases decl.application <;> rfl

theorem Declaration.decode_encode (decl : Declaration) :
    decode .message decl.encode = some decl := by
  have happ (app : Application) :
      Decode.nullable (Application.decode .message) app.encode = some (some app) :=
    congrArg (Option.map some) app.decode_encode
  simp [encode_eq, decode, Table.lookup_pair, readOr_nullable happ, Logging.decode_encode,
    PluginUse.decode_encode]

theorem Declaration.ignores : shape.Ignores (decode .message) := by
  refine Shape.ignores_record (fun _ => rfl) fun fields => ?_
  simp (disch := simp) only [defaulting_restrict, optional_restrict]

def Status.shape : Shape := .fields ["phase", "message"] []

theorem Status.decode_encode (status : Status) : decode .message status.encode = some status := by
  simp [encode, decode, Table.lookup_pair, Phase.decode_encode]

theorem Status.ignores : shape.Ignores (decode .message) := by
  refine Shape.ignores_record (fun _ => rfl) fun fields => ?_
  simp (disch := simp) only [defaulting_restrict, optional_restrict]

/-! ## Settings -/

def Settings.shape : Shape :=
  .fields ["scriptRoot", "entrypointVolume", "idleCommand", "shell"] []

theorem Settings.encode_eq (settings : Settings) :
    settings.encode = .record (written [
      ("scriptRoot", some (.text settings.scriptRoot)),
      ("entrypointVolume", some (.text settings.entrypointVolume)),
      ("idleCommand", some (.text settings.idleCommand)),
      ("shell", some (.text settings.shell))]) := rfl

theorem Settings.decode_encode (settings : Settings) :
    decode .message settings.encode = some settings := by
  simp [encode_eq, decode, Table.lookup_pair]

theorem Settings.ignores : shape.Ignores (decode .message) := by
  refine Shape.ignores_record (fun _ => rfl) fun fields => ?_
  simp (disch := simp) only [defaulting_restrict]

/-! ## Job groups and scripts -/

def JobGroup.shape : Shape := .fields ["name", "replicas", "shareProcessNamespace"] []

theorem JobGroup.decode_encode (group : JobGroup) : decode .message group.encode = some group := by
  simp [encode, decode, Table.lookup_pair]

theorem JobGroup.ignores : shape.Ignores (decode .message) := by
  refine Shape.ignores_record (fun _ => rfl) fun fields => ?_
  simp (disch := simp) only [required_restrict, defaulting_restrict]

def Command.shape : Shape := .fields ["launcher", "invocation"] []

theorem Command.decode_encode (command : Command) :
    decode .message command.encode = some command := by
  simp [encode, decode, Table.lookup_pair]

@[simp] theorem Command.ignores : shape.Ignores (decode .message) := by
  refine Shape.ignores_record (fun _ => rfl) fun fields => ?_
  simp (disch := simp) only [required_restrict, optional_restrict]

def Script.shape : Shape :=
  .fields ["name", "pre", "command", "post"] [("command", Command.shape)]

theorem Script.decode_encode (script : Script) : decode .message script.encode = some script := by
  simp [encode, decode, Table.lookup_pair, Command.decode_encode]

@[simp] theorem Script.ignores : shape.Ignores (decode .message) := by
  refine Shape.ignores_record (fun _ => rfl) fun fields => ?_
  simp (disch := simp) only [required_restrict, defaulting_restrict, optional_restrict]

/-! ## Containers -/

def Resources.shape : Shape := .fields ["limits", "requests"] []

theorem Resources.decode_encode (resources : Resources) :
    decode .message resources.encode = some resources := by
  simp [encode, decode, Table.lookup_pair, OptionValue.decode_encode]

@[simp] theorem Resources.ignores : shape.Ignores (decode .message) := by
  refine Shape.ignores_record (fun _ => rfl) fun fields => ?_
  simp (disch := simp) only [defaulting_restrict]

def Security.shape : Shape := .fields ["privileged", "capabilities"] []

theorem Security.decode_encode (security : Security) :
    decode .message security.encode = some security := by
  simp [encode, decode, Table.lookup_pair]

@[simp] theorem Security.ignores : shape.Ignores (decode .message) := by
  refine Shape.ignores_record (fun _ => rfl) fun fields => ?_
  simp (disch := simp) only [defaulting_restrict]

def Contributor.shape : Shape := .data

/-- The position is a number of 64 bits. -/
def Contributor.Fits : Contributor → Prop
  | .application => True
  | .metric index => index < indexBound
  | .addon index => index < indexBound

theorem Contributor.decode_encode {contributor : Contributor} (h : contributor.Fits) :
    decode .message (contributor.encode .field) = some contributor := by
  cases contributor with
  | application => rfl
  | metric index => simp [encode, decode, Document.case, Decode.case?, nat_int h]
  | addon index => simp [encode, decode, Document.case, Decode.case?, nat_int h]

theorem Contributor.nullable_encode {α : Type} (value : Document → Option α)
    (contributor : Contributor) :
    Decode.nullable value (contributor.encode .field) =
      (value (contributor.encode .field)).map some := by
  cases contributor <;> rfl

def Container.shape : Shape :=
  .fields ["name", "jobGroup", "image", "workingDir", "pullSecret", "resources", "security",
      "script", "persistScript", "standalone", "contributor"] [
    ("resources", Resources.shape), ("security", Security.shape), ("script", Script.shape)]

/-- The position of the contributor, if it has one, is a number of 64 bits. -/
def Container.Fits (container : Container) : Prop :=
  ∀ contributor, container.contributor = some contributor → contributor.Fits

theorem Container.encode_eq (container : Container) :
    container.encode .field = .record (written [
      ("name", some (.text container.name)), ("jobGroup", some (.text container.jobGroup)),
      ("image", some (.text container.image)),
      ("workingDir", container.workingDir.map .text),
      ("pullSecret", container.pullSecret.map .text),
      ("resources", some container.resources.encode),
      ("security", some container.security.encode), ("script", some container.script.encode),
      ("persistScript", some (.bool container.persistScript)),
      ("standalone", if container.standalone then some (.bool true) else none),
      ("contributor", container.contributor.map (Contributor.encode .field))]) := by
  rw [encode]
  cases container.contributor with
  | none => simp [written]
  | some contributor => simp

theorem Container.decode_encode {container : Container} (h : container.Fits) :
    decode .message (container.encode .field) = some container := by
  have hcontributor : readOr (some none) (Decode.nullable (Contributor.decode .message))
      (container.contributor.map (Contributor.encode .field)) = some container.contributor := by
    cases hknown : container.contributor with
    | none => rfl
    | some contributor =>
      rw [Option.map_some, readOr_some, Contributor.nullable_encode,
        Contributor.decode_encode (h contributor hknown), Option.map_some]
  simp [encode_eq, decode, Table.lookup_pair, Resources.decode_encode, Security.decode_encode,
    Script.decode_encode, hcontributor]

theorem Container.ignores : shape.Ignores (decode .message) := by
  refine Shape.ignores_record (fun _ => rfl) fun fields => ?_
  simp (disch := simp) only [required_restrict, defaulting_restrict, optional_restrict]

/-! ## Volumes -/

def VolumeSource.shape : Shape :=
  .choice <| Shape.part [
    ("configMap", .fields ["name", "items"] []),
    ("persistentVolumeClaim", .fields ["claimName"] []),
    ("secret", .fields ["secretName"] []), ("hostPath", .fields ["path"] [])]

theorem VolumeSource.decode_encode (source : VolumeSource) :
    decode .message (source.encode .field) = some source := by
  cases source <;> simp [encode, decode, Document.case, Decode.case?, Table.lookup_pair]

/-- The data of a case is a record of its own type. -/
theorem VolumeSource.ignores_body {α : Type} (names : List String)
    {decodeFields : Decode.Fields → Option α}
    (h : ∀ fields, decodeFields (restrict names (fun name => (Shape.part [] name).prune) fields) =
      decodeFields fields) (body : Document) :
    (Decode.fields? ((Shape.fields names []).prune body)).bind decodeFields =
      (Decode.fields? body).bind decodeFields :=
  Shape.ignores_record (fun _ => rfl) h body

@[simp] theorem VolumeSource.ignores : shape.Ignores (decode .message) := by
  intro d
  rw [decode, decode, shape, Shape.case?_prune]
  cases Decode.case? .message d with
  | none => rfl
  | some c =>
    obtain ⟨name, body?⟩ := c
    cases body? with
    | none => rfl
    | some body =>
      rw [Option.map_some, Option.map_some]
      symm
      -- The name of the case settles both how its data is decoded and what is dropped from it.
      split
      · rename_i heq
        cases heq
      · rename_i heq
        cases heq
        refine (ignores_body ["name", "items"] (fun fields => ?_) body).symm
        simp (disch := simp) only [required_restrict]
      · rename_i heq
        cases heq
        refine (ignores_body ["claimName"] (fun fields => ?_) body).symm
        simp (disch := simp) only [required_restrict]
      · rename_i heq
        cases heq
        refine (ignores_body ["secretName"] (fun fields => ?_) body).symm
        simp (disch := simp) only [required_restrict]
      · rename_i heq
        cases heq
        refine (ignores_body ["path"] (fun fields => ?_) body).symm
        simp (disch := simp) only [required_restrict]
      · symm
        split <;> simp_all

def Volume.shape : Shape :=
  .fields ["name", "source", "path", "readOnly", "mount"] [("source", VolumeSource.shape)]

theorem Volume.decode_encode (volume : Volume) :
    decode .message (volume.encode .field) = some volume := by
  simp [encode, decode, Table.lookup_pair, VolumeSource.decode_encode]

theorem Volume.ignores : shape.Ignores (decode .message) := by
  refine Shape.ignores_record (fun _ => rfl) fun fields => ?_
  simp (disch := simp) only [required_restrict]

/-! ## All values -/

/-- A value is read back from what is written of it and from any number of undeclared fields in
it. -/
theorem readsBack_of_fits :
    (∀ bag, OptionBag.shape.ReadsBack OptionBag.encode OptionBag.decode bag) ∧
    (∀ use, PluginUse.shape.ReadsBack PluginUse.encode PluginUse.decode use) ∧
    (∀ app, Application.shape.ReadsBack Application.encode Application.decode app) ∧
    (∀ decl, Declaration.shape.ReadsBack Declaration.encode Declaration.decode decl) ∧
    (∀ status, Status.shape.ReadsBack Status.encode Status.decode status) ∧
    (∀ settings, Settings.shape.ReadsBack Settings.encode Settings.decode settings) ∧
    (∀ group, JobGroup.shape.ReadsBack JobGroup.encode JobGroup.decode group) ∧
    (∀ script, Script.shape.ReadsBack Script.encode Script.decode script) ∧
    (∀ contributor : Contributor, contributor.Fits →
      Contributor.shape.ReadsBack (Contributor.encode .field) Contributor.decode contributor) ∧
    (∀ container : Container, container.Fits →
      Container.shape.ReadsBack (Container.encode .field) Container.decode container) ∧
    (∀ source, VolumeSource.shape.ReadsBack (VolumeSource.encode .field) VolumeSource.decode
      source) ∧
    (∀ volume, Volume.shape.ReadsBack (Volume.encode .field) Volume.decode volume) := by
  refine ⟨fun bag => ?_, fun use => ?_, fun app => ?_, fun decl => ?_, fun status => ?_,
    fun settings => ?_, fun group => ?_, fun script => ?_, fun contributor hfits => ?_,
    fun container hfits => ?_, fun source => ?_, fun volume => ?_⟩
  · exact Shape.readsBack_of_decode_encode OptionBag.ignores bag.decode_encode
  · exact Shape.readsBack_of_decode_encode PluginUse.ignores use.decode_encode
  · exact Shape.readsBack_of_decode_encode Application.ignores app.decode_encode
  · exact Shape.readsBack_of_decode_encode Declaration.ignores decl.decode_encode
  · exact Shape.readsBack_of_decode_encode Status.ignores status.decode_encode
  · exact Shape.readsBack_of_decode_encode Settings.ignores settings.decode_encode
  · exact Shape.readsBack_of_decode_encode JobGroup.ignores group.decode_encode
  · exact Shape.readsBack_of_decode_encode Script.ignores script.decode_encode
  · exact Shape.readsBack_of_decode_encode (Shape.ignores_data _) (Contributor.decode_encode hfits)
  · exact Shape.readsBack_of_decode_encode Container.ignores (Container.decode_encode hfits)
  · exact Shape.readsBack_of_decode_encode VolumeSource.ignores source.decode_encode
  · exact Shape.readsBack_of_decode_encode Volume.ignores volume.decode_encode

/-- A container whose optional texts are empty and whose lists and flags are left out. -/
def Sample.sparse : Container where
  name := "main"
  jobGroup := "m"
  image := ""
  workingDir := some ""
  script := { name := some "", command := { invocation := "run" } }
  contributor := some (.addon 3)

/-- One more field in the record of the container does not change what is read. -/
theorem readsBack_of_sparse :
    Sample.sparse.Fits ∧ ∃ fields, Sample.sparse.encode .field = .record fields ∧
      Container.decode .message (.record (("note", .null) :: fields)) = some Sample.sparse := by
  have hfits : Sample.sparse.Fits := by
    rintro contributor ⟨rfl⟩
    exact (by decide : 3 < Contributor.indexBound)
  obtain ⟨-, -, -, -, -, -, -, -, -, hcontainer, -, -⟩ := readsBack_of_fits
  refine ⟨hfits, _, rfl, hcontainer Sample.sparse hfits _ (.single ?_)⟩
  exact .here (by decide) [] _ .null

end MeasuredJob
