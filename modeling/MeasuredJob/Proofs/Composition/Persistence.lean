import MeasuredJob.Proofs.Composition.Names
import MeasuredJob.Proofs.Table
import MeasuredJob.Proofs.Text.Trimming

/-!
# Persisted scripts

A persisted script reaches its container on a long way: the config map holds it under a key, the
volume with the scripts turns the key into a file, and the command of the container names the path
of the file.  The three are computed apart from each other.  The main statement here says that they
agree and that no script is lost on the way.
-/

namespace MeasuredJob
namespace Composition

/-- A volume brings the scripts of `c` to its containers: it shows the config map of `c`, its
`files` are one for each script, and whoever starts from a file gets its own script. -/
structure Delivers (c : Composition) (settings : Settings) (root : String) (volume : Volume)
    (files : Table String) : Prop where
  source : volume.source = .configMap c.name files
  stored : ∀ space, ∃ map, c.configMap? space = some map ∧
    map.name = c.name ∧ map.space = space ∧ map.data = c.scripts
  keys : files.keys = c.scripts.keys
  names : ∀ key ∈ c.scripts.keys, files.get? key = some (key ++ ".sh")
  size : c.scripts.size = (c.containers.filter fun k => k.spec.persistScript).length
  launched : ∀ k ∈ c.containers, k.spec.persistScript = true → ∃ key file,
    k.launch = .persisted key (root ++ "/" ++ file) ∧ files.get? key = some file ∧
      c.scripts.get? key = some k.script ∧ k.command = [settings.shell, root ++ "/" ++ file]

/-! ## The scripts by their keys -/

/-- The keyed scripts of a composition, in the order of its containers. -/
def keyedScripts (c : Composition) : List (String × String) :=
  c.containers.filterMap fun k => k.scriptKey?.map fun key => (key, k.script)

theorem keys_keyedScripts (c : Composition) :
    c.keyedScripts.map Prod.fst = c.containers.filterMap ComposedContainer.scriptKey? := by
  rw [keyedScripts, List.map_filterMap]
  congr 1
  funext k
  cases k.scriptKey? <;> rfl

theorem length_keyedScripts {c : Composition}
    (hkeyed : ∀ k ∈ c.containers, k.scriptKey?.isSome = k.spec.persistScript) :
    c.keyedScripts.length = (c.containers.filter fun k => k.spec.persistScript).length := by
  rw [← List.length_map Prod.fst, keys_keyedScripts]
  generalize c.containers = containers at hkeyed
  induction containers with
  | nil => rfl
  | cons k rest ih =>
    have hk : k.scriptKey?.isSome = k.spec.persistScript := hkeyed k List.mem_cons_self
    have hrest := ih fun k hk => hkeyed k (List.mem_cons_of_mem _ hk)
    rw [List.filterMap_cons, List.filter_cons, ← hk]
    cases k.scriptKey? with
    | none => simpa using hrest
    | some key => simpa using hrest

theorem keyedScripts_eq_nil_iff {c : Composition}
    (hkeyed : ∀ k ∈ c.containers, k.scriptKey?.isSome = k.spec.persistScript) :
    c.keyedScripts = [] ↔ ¬∃ k ∈ c.containers, k.spec.persistScript = true := by
  rw [← List.length_eq_zero_iff, length_keyedScripts hkeyed, List.length_eq_zero_iff,
    List.filter_eq_nil_iff]
  simp

/-! ## The volume and the config map -/

theorem isSome_scriptVolume {ctx : Context} {keys : List String} :
    (scriptVolume ctx keys).isSome = true ↔ keys ≠ [] := by
  cases keys <;> simp [scriptVolume]

theorem isSome_configMap? {c : Composition} (hnodup : (c.keyedScripts.map Prod.fst).Nodup)
    (space : String) : (c.configMap? space).isSome = true ↔ c.keyedScripts ≠ [] := by
  have hempty : c.scripts.isEmpty = c.keyedScripts.isEmpty := Table.isEmpty_ofList hnodup
  rw [configMap?, hempty]
  cases c.keyedScripts <;> simp

/-- The files of the volume with the scripts, one for each key. -/
def fileEntries (keys : List String) : List (String × String) :=
  keys.map fun key => (key, key ++ ".sh")

theorem keys_fileEntries (keys : List String) : (fileEntries keys).map Prod.fst = keys := by
  rw [fileEntries, List.map_map]
  exact List.map_id keys

theorem source_of_scriptVolume {ctx : Context} {keys : List String} {volume : Volume}
    (h : volume ∈ scriptVolume ctx keys) :
    keys ≠ [] ∧ volume.source = .configMap ctx.setName (Table.ofList (fileEntries keys)) := by
  cases keys with
  | nil => cases h
  | cons key keys =>
    cases h
    exact ⟨List.cons_ne_nil _ _, rfl⟩

theorem get?_fileEntries {keys : List String} (hnodup : keys.Nodup) {key : String}
    (hkey : key ∈ keys) : (Table.ofList (fileEntries keys)).get? key = some (key ++ ".sh") := by
  rw [Table.get?_ofList_eq_some_iff (by rwa [keys_fileEntries])]
  exact List.mem_map_of_mem hkey

end Composition

section

open MeasuredJob.Composition

variable {registry : Registry} {settings : Settings} {name : String} {decl : Declaration}
  {resolution : Resolution} {contributed customized : Assembly} {c : Composition}

theorem Stages.isSome_scriptKey?
    (h : Stages registry settings name decl resolution contributed customized c) :
    ∀ k ∈ c.containers, k.scriptKey?.isSome = k.spec.persistScript :=
  fun _ hk => (h.renders_of_mem hk).isSome_scriptKey?

theorem Stages.nodup_keyedScripts
    (h : Stages registry settings name decl resolution contributed customized c) :
    (c.keyedScripts.map Prod.fst).Nodup := by
  rw [keys_keyedScripts]
  exact h.nodup_scriptKeys

theorem Stages.get?_scripts
    (h : Stages registry settings name decl resolution contributed customized c)
    {k : ComposedContainer} (hk : k ∈ c.containers) {key : String}
    (hkey : k.scriptKey? = some key) : c.scripts.get? key = some k.script := by
  rw [scripts, ← keyedScripts, Table.get?_ofList_eq_some_iff h.nodup_keyedScripts]
  refine List.mem_filterMap.mpr ⟨k, hk, ?_⟩
  rw [hkey]
  rfl

theorem Stages.delivers
    (h : Stages registry settings name decl resolution contributed customized c)
    {volume : Volume} (hvolume : volume ∈ c.entrypointVolume) :
    ∃ files, c.Delivers settings (Text.trimEndChar '/' settings.scriptRoot) volume files := by
  let keys := c.containers.filterMap ComposedContainer.scriptKey?
  have hnodup : keys.Nodup := h.nodup_scriptKeys
  have hkeyed := h.nodup_keyedScripts
  have hscripts : c.scripts.keys.Perm keys := by
    have hperm := Table.keys_ofList_perm hkeyed
    rw [keys_keyedScripts] at hperm
    exact hperm
  have hfiles : (Table.ofList (fileEntries keys)).keys.Perm keys := by
    have hentries : ((fileEntries keys).map Prod.fst).Nodup := by
      rw [keys_fileEntries]
      exact hnodup
    have hperm := Table.keys_ofList_perm hentries
    rw [keys_fileEntries] at hperm
    exact hperm
  rw [h.entrypointVolume_eq] at hvolume
  obtain ⟨hne, hsource⟩ := source_of_scriptVolume hvolume
  refine ⟨Table.ofList (fileEntries keys), {
    source := ?_
    stored := fun space => ?_
    keys := Table.keys_eq_of_perm (hfiles.trans hscripts.symm)
    names := fun key hkey => get?_fileEntries hnodup (hscripts.mem_iff.mp hkey)
    size := ?_
    launched := fun k hk hpersist => ?_ }⟩
  · rw [hsource, h.name_eq]
    rfl
  · have hsome : (c.configMap? space).isSome = true := by
      rw [isSome_configMap? hkeyed]
      intro hnil
      refine hne ?_
      rw [← keys_keyedScripts, hnil]
      rfl
    obtain ⟨map, hmap⟩ := Option.isSome_iff_exists.mp hsome
    refine ⟨map, hmap, ?_⟩
    rw [configMap?] at hmap
    split at hmap
    · cases hmap
    · cases hmap
      exact ⟨rfl, rfl, rfl⟩
  · rw [← length_keyedScripts h.isSome_scriptKey?]
    exact Table.size_ofList hkeyed
  · obtain ⟨key, hlaunch, hcommand⟩ := (h.renders_of_mem hk).persisted hpersist
    have hkey : k.scriptKey? = some key := by
      rw [ComposedContainer.scriptKey?, hlaunch]
    have hmem : key ∈ keys := List.mem_filterMap.mpr ⟨k, hk, hkey⟩
    have hpath : settings.scriptPath key =
        Text.trimEndChar '/' settings.scriptRoot ++ "/" ++ (key ++ ".sh") :=
      String.append_assoc
    refine ⟨key, key ++ ".sh", ?_, get?_fileEntries hnodup hmem, h.get?_scripts hk hkey, ?_⟩
    · rw [hlaunch, ← hpath]
      rfl
    · rw [hcommand, ← hpath]
      rfl

end

/-- The config map, the volume with the scripts and the commands of the containers agree: either
all scripts are passed to the shell and there is neither map nor volume, or both are there and the
volume delivers every persisted script. -/
theorem scripts_delivered_of_compose {registry : Registry} {settings : Settings} {name : String}
    {decl : Declaration} {c : Composition} (h : decl.compose registry settings name = .ok c) :
    (∀ space, (c.configMap? space).isSome = true ↔ c.entrypointVolume.isSome = true) ∧
      (c.entrypointVolume.isSome = true ↔ ∃ k ∈ c.containers, k.spec.persistScript = true) ∧
      (∃ root, Text.DropsEnd '/' settings.scriptRoot root ∧
        ∀ volume ∈ c.entrypointVolume, ∃ files, c.Delivers settings root volume files) ∧
      ∀ k ∈ c.containers, k.spec.persistScript = false →
        k.launch = .inline ∧ k.scriptKey? = none ∧
          k.command = [settings.shell, "-c", k.script] := by
  obtain ⟨resolution, contributed, customized, hstages⟩ := compose_eq_ok_iff.mp h
  have hkeyed := hstages.nodup_keyedScripts
  have hvolume : c.entrypointVolume.isSome = true ↔ c.keyedScripts ≠ [] := by
    rw [hstages.entrypointVolume_eq, Composition.isSome_scriptVolume,
      ← Composition.keys_keyedScripts, Ne, List.map_eq_nil_iff]
  refine ⟨fun space => ?_, ?_, ?_, fun k hk hshell => ?_⟩
  · rw [hvolume, Composition.isSome_configMap? hkeyed]
  · rw [hvolume, Ne, Composition.keyedScripts_eq_nil_iff hstages.isSome_scriptKey?, not_not]
  · exact ⟨_, Text.dropsEnd_trimEndChar '/' settings.scriptRoot,
      fun volume hmem => hstages.delivers hmem⟩
  · obtain ⟨hlaunch, hcommand⟩ := (hstages.renders_of_mem hk).inShell hshell
    refine ⟨hlaunch, ?_, hcommand⟩
    rw [ComposedContainer.scriptKey?, hlaunch]

/-- Named, numbered and inline scripts side by side, under a directory written with slashes at its
end. -/
theorem scripts_delivered_of_mixed :
    ∃ c, Sample.declaration.compose Sample.registry { scriptRoot := "/scripts//" } "set" = .ok c ∧
      (∀ space, (c.configMap? space).isSome = true ↔ c.entrypointVolume.isSome = true) ∧
      (c.entrypointVolume.isSome = true ↔ ∃ k ∈ c.containers, k.spec.persistScript = true) ∧
      (∃ root, Text.DropsEnd '/' "/scripts//" root ∧ ∀ volume ∈ c.entrypointVolume,
        ∃ files, c.Delivers { scriptRoot := "/scripts//" } root volume files) ∧
      ∀ k ∈ c.containers, k.spec.persistScript = false →
        k.launch = .inline ∧ k.scriptKey? = none ∧ k.command = ["/bin/bash", "-c", k.script] := by
  obtain ⟨c, h⟩ : ∃ c, Sample.declaration.compose Sample.registry
      { scriptRoot := "/scripts//" } "set" = .ok c :=
    Success.exists_of_isOk (by decide +kernel)
  exact ⟨c, h, scripts_delivered_of_compose h⟩

end MeasuredJob
