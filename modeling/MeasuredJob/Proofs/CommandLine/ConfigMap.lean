import MeasuredJob.CommandLine.Run
import MeasuredJob.Proofs.Composition.Persistence
import MeasuredJob.Proofs.Composition.Roster
import MeasuredJob.Proofs.Failure

/-!
# There is always a config map

Every metric of the library contributes a container whose script is persisted, a declaration that
composes has a metric, and no addon of the library drops a container or passes its script to the
shell instead.  So a composition always has something to store, and asking for its config map never
comes back with nothing, whatever the files say.
-/

namespace MeasuredJob

open Success

/-! ## Persisted containers -/

theorem Builtin.DeclaresMetric.exists_persisted {use : PluginUse} {metric : Metric}
    (h : DeclaresMetric use metric) {ctx : Context} {containers : List Container}
    (hcontainers : metric.containers ctx = .ok containers) :
    ∃ c ∈ containers, c.persistScript = true := by
  cases h with
  | workload =>
    cases hcontainers
    exact ⟨_, List.mem_cons_self, rfl⟩
  | sampler hname options =>
    change Sampler.containers options ctx = .ok containers at hcontainers
    rw [Sampler.containers] at hcontainers
    split at hcontainers
    · cases hcontainers
    · cases hcontainers
      exact ⟨_, List.mem_cons_self, rfl⟩

/-- Every metric of a successful first phase had its containers. -/
theorem Assembly.exists_containers_of_assemble {ctx : Context} {resolution : Resolution}
    {a : Assembly} (h : assemble ctx resolution = .ok a) {metric : Configured Metric} {index : ℕ}
    (hmetric : resolution.metrics[index]? = some metric) :
    ∃ containers, metric.behaviour.containers ctx = .ok containers := by
  obtain ⟨ofMetrics, hmetrics, -⟩ := assemble_eq_ok_iff.mp h
  obtain ⟨before, after, hstep⟩ :=
    exists_step_of_foldlM hmetrics (a := (metric, index)) (List.mem_zipIdx_iff_getElem?.mpr hmetric)
  obtain ⟨-, containers, hcontainers, -⟩ := addMetric_eq_ok_iff.mp hstep
  exact ⟨containers, hcontainers⟩

section

variable {settings : Settings} {name : String} {decl : Declaration} {resolution : Resolution}
  {contributed customized : Assembly} {c : Composition}

theorem Stages.exists_persisted_contributed
    (h : Stages Builtin.registry settings name decl resolution contributed customized c) :
    ∃ start ∈ contributed.containers, start.persistScript = true := by
  obtain ⟨use, huse⟩ : ∃ use, decl.metrics[0]? = some use := by
    obtain ⟨use, uses, hmetrics⟩ := List.exists_cons_of_ne_nil h.declared
    exact ⟨use, by rw [hmetrics]; rfl⟩
  obtain ⟨metric, hmetric, hdeclares⟩ :=
    exists_getElem?_of_forall₂ (Builtin.forall₂_declaresMetric h.resolved) huse
  obtain ⟨containers, hcontainers⟩ := Assembly.exists_containers_of_assemble h.assembled hmetric
  obtain ⟨own, hown, hpersist⟩ := hdeclares.exists_persisted hcontainers
  refine ⟨_, Assembly.mem_assemble_of_metric h.assembled hmetric hcontainers hown, ?_⟩
  -- The mark, and for a monitor the job group and a capability, are all that changes.
  cases metric.behaviour.kind with
  | workload | monitor => exact hpersist

/-- Addons of the library leave a persisted script persisted. -/
theorem Stages.exists_persisted
    (h : Stages Builtin.registry settings name decl resolution contributed customized c) :
    ∃ k ∈ c.containers, k.spec.persistScript = true := by
  obtain ⟨start, hstart, hpersist⟩ := h.exists_persisted_contributed
  obtain ⟨k, hk, fragments, words, privileged, hspec⟩ :=
    h.exists_customized_of_mem Registry.onlyWraps_builtin hstart
  refine ⟨k, hk, ?_⟩
  rw [hspec]
  exact hpersist

theorem Stages.keyedScripts_ne_nil
    (h : Stages Builtin.registry settings name decl resolution contributed customized c) :
    c.keyedScripts ≠ [] := by
  rw [Ne, Composition.keyedScripts_eq_nil_iff h.isSome_scriptKey?, not_not]
  exact h.exists_persisted

end

/-! ## What is stored -/

/-- The composition has something to store: there is a volume for the scripts, and in every space
there is a config map with at least one of them. -/
structure Composition.Persists (c : Composition) : Prop where
  volume : c.entrypointVolume.isSome = true
  stored : ∀ space, ∃ map, c.configMap? space = some map ∧ map.space = space ∧
    map.data.isEmpty = false

theorem Composition.persists_of_keyedScripts {c : Composition} (h : c.keyedScripts ≠ [])
    (hnodup : (c.keyedScripts.map Prod.fst).Nodup) (hvolume : c.entrypointVolume.isSome = true) :
    c.Persists where
  volume := hvolume
  stored space := by
    have hscripts : c.scripts.isEmpty = false := by
      rw [Bool.eq_false_iff]
      intro hempty
      rw [scripts, ← keyedScripts, Table.isEmpty_ofList hnodup, List.isEmpty_iff] at hempty
      exact h hempty
    rw [configMap?, hscripts, if_neg Bool.false_ne_true]
    exact ⟨_, rfl, rfl, hscripts⟩

theorem Stages.persists {settings : Settings} {name : String} {decl : Declaration}
    {resolution : Resolution} {contributed customized : Assembly} {c : Composition}
    (h : Stages Builtin.registry settings name decl resolution contributed customized c) :
    c.Persists := by
  have hkeyed := h.keyedScripts_ne_nil
  refine Composition.persists_of_keyedScripts hkeyed h.nodup_keyedScripts ?_
  rw [h.entrypointVolume_eq, Composition.isSome_scriptVolume, ← Composition.keys_keyedScripts, Ne,
    List.map_eq_nil_iff]
  exact hkeyed

theorem Resource.persists_of_eq_ok {settings : Settings} {resource : Resource} {c : Composition}
    (h : resource.compose Builtin.registry settings = .ok c) : c.Persists := by
  rw [Resource.compose] at h
  split at h
  · cases h
  · obtain ⟨resolution, contributed, customized, hstages⟩ := compose_eq_ok_iff.mp h
    exact hstages.persists

/-! ## The command -/

namespace CommandLine

theorem readAs_ne_nothingPersisted {α : Type} {read : String → Option String}
    {decode : Document.Source → Document → Option α} {path name : String} :
    readAs read decode path ≠ .error (.nothingPersisted name) := by
  rw [readAs]
  split
  · simp
  · split <;> simp

def readSettings (read : String → Option String) : Option String → Except Failure Settings
  | none => .ok {}
  | some path => readAs read Settings.decode path

theorem readSettings_ne_nothingPersisted {read : String → Option String} {config : Option String}
    {name : String} : readSettings read config ≠ .error (.nothingPersisted name) := by
  cases config with
  | none => simp [readSettings]
  | some path => exact readAs_ne_nothingPersisted

theorem composeFile_eq (registry : Registry) (read : String → Option String) (file : String)
    (output : OutputFormat) (space config : Option String) :
    composeFile registry read file output space config =
      readAs read Resource.decode file >>= fun resource =>
        readSettings read config >>= fun settings =>
          (resource.compose registry settings).mapError .compose >>=
            present output (targetSpace space resource) := by
  cases config <;> rfl

/-- A composition with something to store is presented in every format. -/
theorem exists_present {c : Composition} (h : c.Persists) (output : OutputFormat) (space : String) :
    ∃ shown, present output space c = .ok shown := by
  obtain ⟨map, hmap, -⟩ := h.stored space
  cases output with
  | json | yaml | scripts => exact ⟨_, rfl⟩
  | configMap => exact ⟨.yaml map.encode, by rw [present, hmap]⟩

theorem composeFile_ne_nothingPersisted (read : String → Option String) (file : String)
    (output : OutputFormat) (space config : Option String) (name : String) :
    composeFile Builtin.registry read file output space config ≠
      .error (.nothingPersisted name) := by
  rw [composeFile_eq]
  simp only [Ne, Failure.bind_eq_error_iff, not_or, not_exists, not_and]
  refine ⟨readAs_ne_nothingPersisted, fun resource _ => ⟨readSettings_ne_nothingPersisted,
    fun settings _ => ⟨?_, fun c hc => ?_⟩⟩⟩
  · cases resource.compose Builtin.registry settings <;> simp [Except.mapError]
  · have hcompose : resource.compose Builtin.registry settings = .ok c := by
      cases hresult : resource.compose Builtin.registry settings with
      | ok c' => simpa [hresult, Except.mapError] using hc
      | error e => simp [hresult, Except.mapError] at hc
    obtain ⟨shown, hshown⟩ :=
      exists_present (Resource.persists_of_eq_ok hcompose) output (targetSpace space resource)
    rw [hshown]
    simp

end CommandLine

/-- With the plugins of the library a composition always has something to store, so no command of
the program fails for want of a persisted script, whatever the files hold. -/
theorem persists_of_compose :
    (∀ (settings : Settings) (name : String) (decl : Declaration) (c : Composition),
      decl.compose Builtin.registry settings name = .ok c → c.Persists) ∧
    ∀ (read : String → Option String) (task : CommandLine.Task) (name : String),
      CommandLine.run Builtin.registry read task ≠ .error (.nothingPersisted name) := by
  refine ⟨fun settings name decl c h => ?_, fun read task name => ?_⟩
  · obtain ⟨resolution, contributed, customized, hstages⟩ := compose_eq_ok_iff.mp h
    exact hstages.persists
  · cases task with
    | list family quiet => simp [CommandLine.run]
    | compose file output space config =>
      exact CommandLine.composeFile_ne_nothingPersisted read file output space config name

/-- A workload, a monitored application whose script is passed to the shell, and addons. -/
theorem persists_of_observed :
    ∃ c, Sample.observed.compose Builtin.registry {} "set" = .ok c ∧ c.Persists := by
  obtain ⟨c, h⟩ := Sample.exists_compose_observed
  exact ⟨c, h, persists_of_compose.1 {} "set" Sample.observed c h⟩

end MeasuredJob
