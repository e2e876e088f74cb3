import MeasuredJob.Proofs.Plugin.Export

/-!
# The option contract

An instance of a plugin may be given options again and again, and some of them may fail half-way.
What the plugins of the library promise holds in every state that an instance gets into like this:
its export puts any instance of the plugin into the same state, taking a bag never depends on the
bags before it, and only keys that the export can have are ever looked at.
-/

namespace MeasuredJob

variable {α : Type}

/-! ## Bags that agree -/

namespace OptionBag

/-- The bags hold the same under the given keys, or neither holds anything. -/
structure Agree (bag bag' : OptionBag) (keys mapKeys : List String) : Prop where
  options : ∀ key ∈ keys, bag.options.get? key = bag'.options.get? key
  mapOptions : ∀ key ∈ mapKeys, bag.mapOptions.get? key = bag'.mapOptions.get? key

variable {bag bag' : OptionBag}

theorem scope_congr (htarget : bag.options.get? "target" = bag'.options.get? "target")
    (hcontainer : bag.options.get? "containerTarget" = bag'.options.get? "containerTarget") :
    Scope.read bag = Scope.read bag' := by
  rw [Scope.read, Scope.read, textOr_congr htarget, textOr_congr hcontainer]

end OptionBag

/-! ## States of an instance -/

namespace Plugin

variable (plugin : Plugin α)

/-- A state that an instance gets into: a fresh one, and the one after any bag, whether or not all
of the bag could be read. -/
inductive Reachable : plugin.State → Prop where
  | fresh : Reachable plugin.fresh
  | configure {state : plugin.State} (h : Reachable state) (bag : OptionBag) :
      Reachable (plugin.configure bag state).1

/-- Some instance exports a flat option of the key. -/
def ExportsOption (key : String) : Prop :=
  ∃ state, plugin.Reachable state ∧ ((plugin.options state).options.get? key).isSome = true

/-- Some instance exports a map option of the key. -/
def ExportsMap (key : String) : Prop :=
  ∃ state, plugin.Reachable state ∧ ((plugin.options state).mapOptions.get? key).isSome = true

/-- The bags differ only under keys that no instance ever exports. -/
structure SeesAlike (bag bag' : OptionBag) : Prop where
  options : ∀ key, plugin.ExportsOption key → bag.options.get? key = bag'.options.get? key
  mapOptions : ∀ key, plugin.ExportsMap key → bag.mapOptions.get? key = bag'.mapOptions.get? key

/-- The plugin in the state, as a composition uses it. -/
def configured (state : plugin.State) : Configured α where
  identifier := plugin.descriptor.identifier
  options := plugin.options state
  behaviour := plugin.behaviour state

/-- What may be relied on when an instance is given options again. -/
structure KeepsOptions : Prop where
  /-- The export of one instance puts every other one, and itself, into the same state. -/
  restores : ∀ state other, plugin.Reachable state → plugin.Reachable other →
    plugin.configure (plugin.options state) other = (state, none)
  /-- So a use with the export passes the same check and behaves in the same way. -/
  used : ∀ state, plugin.Reachable state → plugin.use (plugin.options state) =
    (Error.check (plugin.validate state)).map fun _ => plugin.configured state
  outcome : ∀ bag state other, plugin.Reachable state → plugin.Reachable other →
    (plugin.configure bag state).2 = (plugin.configure bag other).2
  forgets : ∀ bag state other, plugin.Reachable state → plugin.Reachable other →
    (plugin.configure bag state).2 = none →
      (plugin.configure bag state).1 = (plugin.configure bag other).1
  ignores : ∀ bag bag' state, plugin.Reachable state → plugin.SeesAlike bag bag' →
    plugin.configure bag state = plugin.configure bag' state

variable {plugin}

theorem use_of_configure {bag : OptionBag} {state : plugin.State}
    (h : plugin.configure bag plugin.fresh = (state, none)) :
    plugin.use bag =
      (Error.check (plugin.validate state)).map fun _ => plugin.configured state := by
  rw [use, h]
  show Except.bind (Error.check (plugin.validate state)) _ = _
  cases plugin.validate state <;> rfl

/-- Keys that are exported, by a fresh instance or by one that has taken a bag. -/
theorem SeesAlike.agree {bag bag' : OptionBag} (h : plugin.SeesAlike bag bag')
    {keys mapKeys : List String} (hkeys : ∀ key ∈ keys, plugin.ExportsOption key)
    (hmapKeys : ∀ key ∈ mapKeys, plugin.ExportsMap key) : bag.Agree bag' keys mapKeys where
  options key hkey := h.options key (hkeys key hkey)
  mapOptions key hkey := h.mapOptions key (hmapKeys key hkey)

/-- A plugin that takes every bag, whatever it has taken before. -/
theorem keepsOptions_of_read (read : OptionBag → plugin.State) (keys mapKeys : List String)
    (hconfigure : ∀ bag state, plugin.configure bag state = (read bag, none))
    (hwrite : ∀ state, plugin.Reachable state → read (plugin.options state) = state)
    (hread : ∀ bag bag', bag.Agree bag' keys mapKeys → read bag = read bag')
    (hkeys : ∀ key ∈ keys, plugin.ExportsOption key)
    (hmapKeys : ∀ key ∈ mapKeys, plugin.ExportsMap key) : plugin.KeepsOptions := by
  have hrestores : ∀ state other, plugin.Reachable state →
      plugin.configure (plugin.options state) other = (state, none) := by
    intro state other hstate
    rw [hconfigure, hwrite state hstate]
  refine {
    restores := fun state other hstate _ => hrestores state other hstate
    used := fun state hstate => use_of_configure (hrestores state plugin.fresh hstate)
    outcome := fun bag state other _ _ => ?_
    forgets := fun bag state other _ _ _ => ?_
    ignores := fun bag bag' state _ halike => ?_ }
  · rw [hconfigure, hconfigure]
  · rw [hconfigure, hconfigure]
  · rw [hconfigure, hconfigure, hread bag bag' (halike.agree hkeys hmapKeys)]

/-- A state of such a plugin is the fresh one or what a bag has been read to. -/
theorem Reachable.eq_fresh_or_read {state : plugin.State} (h : plugin.Reachable state)
    (read : OptionBag → plugin.State)
    (hconfigure : ∀ bag state, plugin.configure bag state = (read bag, none)) :
    state = plugin.fresh ∨ ∃ bag, state = read bag := by
  cases h with
  | fresh => exact .inl rfl
  | configure _ bag =>
    rw [hconfigure]
    exact .inr ⟨bag, rfl⟩

end Plugin

def AnyPlugin.KeepsOptions : AnyPlugin → Prop
  | .metric plugin => plugin.KeepsOptions
  | .addon plugin => plugin.KeepsOptions

/-! ## The plugins of the library -/

section

open OptionBag

theorem Workload.keepsOptions (workload : Workload) : workload.plugin.KeepsOptions := by
  refine Plugin.keepsOptions_of_read workload.readOptions
    ["command", "mpirun", "workdir", "image"] [] (fun _ _ => rfl)
    (fun state _ => workload.readOptions_write state) (fun bag bag' h => ?_)
    (fun key hkey => ⟨_, .fresh, ?_⟩) (fun _ h => absurd h List.not_mem_nil)
  · have hagree := h.options
    simp only [List.forall_mem_cons] at hagree
    obtain ⟨hcommand, hlauncher, hworkdir, himage, -⟩ := hagree
    rw [readOptions, readOptions, textOr_congr hcommand, textOr_congr hlauncher,
      textOr_congr hworkdir, textOr_congr himage]
  · simp only [List.mem_cons, List.not_mem_nil, or_false] at hkey
    show ((Options.write (fresh workload)).options.get? key).isSome = true
    rcases hkey with rfl | rfl | rfl | rfl <;> simp [Options.write, setText]

theorem Companion.keepsOptions : Companion.plugin.KeepsOptions := by
  -- Both maps are exported when they have an entry, so by an instance that has taken one.
  let limited : OptionBag := (OptionBag.empty.setMap "resourceLimits"
    (Table.ofList [("cpu", .int 1)])).setMap "resourceRequests" (Table.ofList [("cpu", .int 1)])
  have hmaps : ∀ key ∈ ["resourceLimits", "resourceRequests"],
      ((readOptions limited).write.mapOptions.get? key).isSome = true := by
    decide +kernel
  have hkeys : ∀ key ∈ ["target", "containerTarget", "name", "image", "command", "entrypoint",
      "workingDir", "pullSecret", "privileged"],
      ((({} : Options).write).options.get? key).isSome = true := by
    decide +kernel
  refine Plugin.keepsOptions_of_read readOptions _ _ (fun _ _ => rfl)
    (fun state _ => readOptions_write state) (fun bag bag' h => ?_)
    (fun key hkey => ⟨_, .fresh, hkeys key hkey⟩)
    (fun key hkey => ⟨_, .configure .fresh limited, hmaps key hkey⟩)
  have hoptions := h.options
  have hmapOptions := h.mapOptions
  simp only [List.forall_mem_cons] at hoptions hmapOptions
  obtain ⟨htarget, hcontainer, hname, himage, hcommand, hentrypoint, hworkingDir, hpullSecret,
    hprivileged, -⟩ := hoptions
  obtain ⟨hlimits, hrequests, -⟩ := hmapOptions
  rw [readOptions, readOptions, scope_congr htarget hcontainer, textOr_congr hname,
    textOr_congr himage, textOr_congr hcommand, textOr_congr hentrypoint,
    textOr_congr hworkingDir, textOr_congr hpullSecret, flag_congr hprivileged,
    valueMap_congr hlimits, valueMap_congr hrequests]

theorem Profiler.keepsOptions : Profiler.plugin.KeepsOptions := by
  have hkeys : ∀ key ∈ ["target", "containerTarget", "events", "mount", "image", "privileged"],
      ((({} : Options).write).options.get? key).isSome = true := by
    decide +kernel
  refine Plugin.keepsOptions_of_read readOptions _ [] (fun _ _ => rfl)
    (fun state _ => readOptions_write state) (fun bag bag' h => ?_)
    (fun key hkey => ⟨_, .fresh, hkeys key hkey⟩) (fun _ h => absurd h List.not_mem_nil)
  have hagree := h.options
  simp only [List.forall_mem_cons] at hagree
  obtain ⟨htarget, hcontainer, hevents, hmount, himage, hprivileged, -⟩ := hagree
  rw [readOptions, readOptions, scope_congr htarget hcontainer, textOr_congr hevents,
    textOr_congr hmount, textOr_congr himage, flag_congr hprivileged]

/-- The keys of texts and flags that a volume of the kind takes. -/
def Mount.Kind.optionKeys (kind : Kind) : List String :=
  ["name", "path", "readOnly", "declareOnly"] ++ kind.referenceKey?.toList

/-- A kind without a reference or without items never gets them. -/
theorem Mount.unset_of_reachable {kind : Kind} {state : Options}
    (h : (Mount.plugin kind).Reachable state) :
    (kind.referenceKey? = none → state.reference = "") ∧
      (kind.itemsKey? = none → state.items = ∅) := by
  rcases h.eq_fresh_or_read (readOptions kind) fun _ _ => rfl with rfl | ⟨bag, rfl⟩
  · exact ⟨fun _ => rfl, fun _ => rfl⟩
  · refine ⟨fun hnone => ?_, fun hnone => ?_⟩
    · rw [readOptions, hnone]
    · rw [readOptions, hnone]

theorem Mount.readOptions_congr {kind : Kind} {bag bag' : OptionBag}
    (h : bag.Agree bag' kind.optionKeys kind.itemsKey?.toList) :
    readOptions kind bag = readOptions kind bag' := by
  have hoptions := h.options
  rw [Kind.optionKeys] at hoptions
  simp only [List.forall_mem_append, List.forall_mem_cons] at hoptions
  obtain ⟨⟨hname, hpath, hreadOnly, hdeclareOnly, -⟩, hreference⟩ := hoptions
  have hitems := h.mapOptions
  rw [readOptions, readOptions, textOr_congr hname, textOr_congr hpath, flag_congr hreadOnly,
    flag_congr hdeclareOnly]
  congr 1
  · cases hkey : kind.referenceKey? with
    | none => rfl
    | some key =>
      rw [hkey] at hreference
      exact textOr_congr (hreference key List.mem_cons_self) ""
  · cases hkey : kind.itemsKey? with
    | none => rfl
    | some key =>
      rw [hkey] at hitems
      exact textMap_congr (hitems key List.mem_cons_self)

theorem Mount.keepsOptions (kind : Kind) : (Mount.plugin kind).KeepsOptions := by
  -- Items are exported when there are any.
  let listed : OptionBag := OptionBag.empty.setMap "items" (Table.ofList [("key", .text "path")])
  have hkeys : ∀ key ∈ kind.optionKeys,
      ((writeOptions kind {}).options.get? key).isSome = true := by
    cases kind <;> decide +kernel
  have hmaps : ∀ key ∈ kind.itemsKey?.toList,
      ((writeOptions kind (readOptions kind listed)).mapOptions.get? key).isSome = true := by
    cases kind <;> decide +kernel
  exact Plugin.keepsOptions_of_read (readOptions kind) _ _ (fun _ _ => rfl)
    (fun state hstate => readOptions_write (unset_of_reachable hstate).1
      (unset_of_reachable hstate).2)
    (fun _ _ => readOptions_congr) (fun key hkey => ⟨_, .fresh, hkeys key hkey⟩)
    (fun key hkey => ⟨_, .configure .fresh listed, hmaps key hkey⟩)

/-! The sampler takes its options in order, so the state after a failure depends on the one before.
Whether it fails, and the state when it does not, depend on the bag alone. -/

theorem Sampler.fault_configure (bag : OptionBag) (state other : Options) :
    (configure bag state).2 = (configure bag other).2 := by
  rw [configure, configure]
  cases bag.intOr identifier "rate" 10 with
  | error e => rfl
  | ok rate => cases bag.intOr identifier "completions" 0 <;> rfl

theorem Sampler.configure_of_no_fault {bag : OptionBag} {state : Options}
    (h : (configure bag state).2 = none) (other : Options) :
    (configure bag state).1 = (configure bag other).1 := by
  rw [configure] at h ⊢
  rw [configure]
  cases hrate : bag.intOr identifier "rate" 10 with
  | error e => simp [hrate] at h
  | ok rate =>
    cases hcompletions : bag.intOr identifier "completions" 0 with
    | error e => simp [hrate, hcompletions] at h
    | ok completions => rfl

theorem Sampler.configure_congr {bag bag' : OptionBag}
    (h : bag.Agree bag' ["rate", "completions", "threads", "image"] []) (state : Options) :
    configure bag state = configure bag' state := by
  have hagree := h.options
  simp only [List.forall_mem_cons] at hagree
  obtain ⟨hrate, hcompletions, hthreads, himage, -⟩ := hagree
  rw [configure, configure, intOr_congr hrate, intOr_congr hcompletions, flag_congr hthreads,
    textOr_congr himage]

theorem Sampler.keepsOptions : Sampler.plugin.KeepsOptions where
  restores state other _ _ := configure_write state other
  used state _ := Plugin.use_of_configure (configure_write state _)
  outcome bag state other _ _ := fault_configure bag state other
  forgets _ _ other _ _ hread := configure_of_no_fault hread other
  ignores bag bag' state _ halike := by
    have hkeys : ∀ key ∈ ["rate", "completions", "threads", "image"],
        ((({} : Options).write).options.get? key).isSome = true := by
      decide +kernel
    exact configure_congr (halike.agree (fun key hkey => ⟨_, .fresh, hkeys key hkey⟩)
      fun _ h => absurd h List.not_mem_nil) state

end

/-- A bag of which the first option can be read and the second one cannot. -/
def Sample.halfReadable : OptionBag :=
  (OptionBag.empty.setText "rate" " 5 ").setText "completions" "soon"

/-- Every plugin of the library keeps the contract, in every state that an instance gets into. -/
theorem Builtin.keepsOptions_of_mem {plugin : AnyPlugin} (h : plugin ∈ Builtin.plugins) :
    plugin.KeepsOptions := by
  simp only [Builtin.plugins, List.mem_cons, List.not_mem_nil, or_false] at h
  rcases h with rfl | rfl | rfl | rfl | rfl | rfl | rfl | rfl | rfl | rfl
  · exact Workload.pennant.keepsOptions
  · exact Workload.lammps.keepsOptions
  · exact Sampler.keepsOptions
  · exact Companion.keepsOptions
  · exact Profiler.keepsOptions
  all_goals exact Mount.keepsOptions _

/-- The sampler has taken one option of a bag and failed at the next one.  Its export restores this
state all the same. -/
theorem Builtin.keepsOptions_of_halfTaken :
    AnyPlugin.metric Sampler.plugin ∈ Builtin.plugins ∧
      (Sampler.configure Sample.halfReadable {}).2.isSome = true ∧
      (Sampler.configure Sample.halfReadable {}).1.rate = 5 ∧
      ∀ other, Sampler.plugin.Reachable other →
        Sampler.configure (Sampler.configure Sample.halfReadable {}).1.write other =
          ((Sampler.configure Sample.halfReadable {}).1, none) := by
  have hmem : AnyPlugin.metric Sampler.plugin ∈ Builtin.plugins := by
    simp [Builtin.plugins]
  exact ⟨hmem, by decide +kernel, by decide +kernel, fun other hother =>
    (Builtin.keepsOptions_of_mem hmem).restores _ other
      (.configure .fresh Sample.halfReadable) hother⟩

end MeasuredJob
