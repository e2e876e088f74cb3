import MeasuredJob.Composition.Compose
import MeasuredJob.Proofs.Assembly.Contributors
import MeasuredJob.Proofs.Assembly.Groups

/-!
# Rendering

While containers are rendered one after another, persisted scripts get their keys: those with a name
by their name, the others by their number among the scripts without a name.  So the keys can be
given out beforehand, and then rendering is a matter of single containers: it succeeds when it does
for each of them and no key is given out twice.
-/

namespace MeasuredJob

open Success

/-- What a composed container is, given the container it comes from: its script is the rendered
one, and it starts from a file under the key of the script or from the text of the script. -/
structure ComposedContainer.Renders (ctx : Context) (interactive : Bool) (groups : List JobGroup)
    (container : Container) (composed : ComposedContainer) : Prop where
  spec : composed.spec = container
  script : ∃ group, Assembly.findGroup? groups container.jobGroup = some group ∧
    Script.render ctx.setName ctx.settings interactive container group = .ok composed.script
  persisted : container.persistScript = true → ∃ key,
    composed.launch = .persisted key (ctx.settings.scriptPath key) ∧
      composed.command = [ctx.settings.shell, ctx.settings.scriptPath key]
  inShell : container.persistScript = false →
    composed.launch = .inline ∧ composed.command = [ctx.settings.shell, "-c", composed.script]

/-- The same container with another mark. -/
def ComposedContainer.remark (f : Option Contributor → Option Contributor)
    (container : ComposedContainer) : ComposedContainer :=
  { container with spec := container.spec.remark f }

namespace Composition

/-- The key of the script of a container, if the script is persisted. -/
def keyOf? (anonymous : ℕ) (container : Container) : Option String :=
  if container.persistScript then some (scriptKey container.script anonymous) else none

/-- Containers with the keys of their scripts. -/
def withKeys : ℕ → List Container → List (Container × Option String)
  | _, [] => []
  | anonymous, container :: rest =>
    (container, keyOf? anonymous container) :: withKeys (countAnonymous container anonymous) rest

/-- The composed container that a container with its key becomes. -/
def Composes (ctx : Context) (interactive : Bool) (groups : List JobGroup)
    (keyed : Container × Option String) (composed : ComposedContainer) : Prop :=
  ∃ group, Assembly.findGroup? groups keyed.1.jobGroup = some group ∧
    ∃ script, Script.render ctx.setName ctx.settings interactive keyed.1 group = .ok script ∧
      composed = match keyed.2 with
        | some key => persisted ctx.settings keyed.1 script key
        | none => inShell ctx.settings keyed.1 script

variable {ctx : Context} {interactive : Bool} {resolution : Resolution} {groups : List JobGroup}
  {anonymous : ℕ} {keys : List String}

/-! ## One container -/

theorem composeContainer_eq_ok_iff {container : Container} {composed : ComposedContainer} :
    composeContainer ctx interactive resolution groups anonymous keys container = .ok composed ↔
      Composes ctx interactive groups (container, keyOf? anonymous container) composed ∧
        ∀ key ∈ keyOf? anonymous container, key ∉ keys := by
  rw [composeContainer, Composes]
  cases hgroup : Assembly.findGroup? groups container.jobGroup with
  | none => simp
  | some group =>
    simp only [bind_eq_ok_iff, Option.some.injEq, exists_eq_left', ← exists_and_right, keyOf?]
    refine exists_congr fun script => ?_
    rw [and_assoc]
    refine and_congr_right fun _ => ?_
    cases container.persistScript with
    | true =>
      simp only [if_true, guard_eq_ok_iff, pure_eq_ok_iff, Option.mem_some_iff, forall_eq']
      rw [and_comm, eq_comm]
    | false =>
      simp only [Bool.false_eq_true, if_false, pure_eq_ok_iff]
      simp [eq_comm]

theorem Composes.scriptKey?_eq {keyed : Container × Option String} {composed : ComposedContainer}
    (h : Composes ctx interactive groups keyed composed) : composed.scriptKey? = keyed.2 := by
  obtain ⟨group, -, script, -, rfl⟩ := h
  cases keyed.2 <;> rfl

theorem Composes.spec_eq {keyed : Container × Option String} {composed : ComposedContainer}
    (h : Composes ctx interactive groups keyed composed) : composed.spec = keyed.1 := by
  obtain ⟨group, -, script, -, rfl⟩ := h
  cases keyed.2 <;> rfl

theorem Composes.unique {keyed : Container × Option String} {composed composed' : ComposedContainer}
    (h : Composes ctx interactive groups keyed composed)
    (h' : Composes ctx interactive groups keyed composed') : composed' = composed := by
  obtain ⟨group, hgroup, script, hscript, rfl⟩ := h
  obtain ⟨group', hgroup', script', hscript', rfl⟩ := h'
  obtain rfl := Option.some.inj (hgroup.symm.trans hgroup')
  rw [Except.ok.inj (hscript.symm.trans hscript')]

/-- How a container starts depends on the key alone. -/
theorem Composes.launch_eq {container container' : Container} {key? : Option String}
    {composed composed' : ComposedContainer}
    (h : Composes ctx interactive groups (container, key?) composed)
    (h' : Composes ctx interactive groups (container', key?) composed') :
    composed'.launch = composed.launch := by
  obtain ⟨group, -, script, -, rfl⟩ := h
  obtain ⟨group', -, script', -, rfl⟩ := h'
  cases key? <;> rfl

theorem Composes.renders {container : Container} {composed : ComposedContainer}
    (h : Composes ctx interactive groups (container, keyOf? anonymous container) composed) :
    composed.Renders ctx interactive groups container := by
  obtain ⟨group, hgroup, script, hscript, h⟩ := h
  cases hpersist : container.persistScript with
  | true =>
    simp only [keyOf?, hpersist, if_true] at h
    subst h
    exact ⟨rfl, ⟨group, hgroup, hscript⟩, fun _ => ⟨_, rfl, rfl⟩,
      fun hnot => absurd (hpersist.symm.trans hnot) Bool.noConfusion⟩
  | false =>
    simp only [keyOf?, hpersist, Bool.false_eq_true, if_false] at h
    subst h
    exact ⟨rfl, ⟨group, hgroup, hscript⟩,
      fun hyes => absurd (hpersist.symm.trans hyes) Bool.noConfusion, fun _ => ⟨rfl, rfl⟩⟩

/-- Rendering has no regard to the mark of a container. -/
theorem Composes.remark {keyed : Container × Option String} {composed : ComposedContainer}
    (h : Composes ctx interactive groups keyed composed)
    (f : Option Contributor → Option Contributor) :
    Composes ctx interactive groups (keyed.map (Container.remark f) id) (composed.remark f) := by
  obtain ⟨group, hgroup, script, hscript, rfl⟩ := h
  refine ⟨group, hgroup, script, hscript, ?_⟩
  obtain ⟨container, key?⟩ := keyed
  cases key? <;> rfl

theorem composes_remark_iff {keyed : Container × Option String} {composed' : ComposedContainer}
    {f : Option Contributor → Option Contributor} :
    Composes ctx interactive groups (keyed.map (Container.remark f) id) composed' ↔
      ∃ composed, Composes ctx interactive groups keyed composed ∧
        composed' = composed.remark f := by
  constructor
  · intro h
    have hback := h.remark fun _ => keyed.1.contributor
    exact ⟨_, hback, (hback.remark f).unique h⟩
  · rintro ⟨composed, h, rfl⟩
    exact h.remark f

/-! ## All containers -/

/-- Rendering succeeds when it does for every container with its key and the keys are distinct. -/
theorem composeContainers_eq_ok_iff {containers : List Container}
    {composed : List ComposedContainer} :
    composeContainers ctx interactive resolution groups anonymous keys containers = .ok composed ↔
      List.Forall₂ (Composes ctx interactive groups) (withKeys anonymous containers) composed ∧
        ((withKeys anonymous containers).filterMap Prod.snd).Nodup ∧
        ∀ key ∈ (withKeys anonymous containers).filterMap Prod.snd, key ∉ keys := by
  induction containers generalizing anonymous keys composed with
  | nil =>
    simp only [composeContainers, withKeys, List.forall₂_nil_left_iff, List.filterMap_nil]
    simp [eq_comm]
  | cons container rest ih =>
    simp only [composeContainers, bind_eq_ok_iff, pure_eq_ok_iff, withKeys,
      composeContainer_eq_ok_iff, ih]
    cases hkey : keyOf? anonymous container with
    | none =>
      simp only [List.filterMap_cons, List.forall₂_cons_left_iff]
      constructor
      · rintro ⟨first, ⟨hfirst, -⟩, others, ⟨hothers, hnodup, hfresh⟩, rfl⟩
        rw [hfirst.scriptKey?_eq] at hfresh
        exact ⟨⟨first, others, hfirst, hothers, rfl⟩, hnodup, hfresh⟩
      · rintro ⟨⟨first, others, hfirst, hothers, rfl⟩, hnodup, hfresh⟩
        have hnone : ∀ key ∈ (none : Option String), key ∉ keys :=
          fun key hkey => absurd hkey (Option.not_mem_none key)
        refine ⟨first, ⟨hfirst, hnone⟩, others, ⟨hothers, hnodup, ?_⟩, rfl⟩
        rw [hfirst.scriptKey?_eq]
        exact hfresh
    | some key =>
      simp only [List.filterMap_cons, List.forall₂_cons_left_iff, List.nodup_cons,
        List.forall_mem_cons, Option.mem_some_iff, forall_eq']
      constructor
      · rintro ⟨first, ⟨hfirst, hnew⟩, others, ⟨hothers, hnodup, hfresh⟩, rfl⟩
        rw [hfirst.scriptKey?_eq] at hfresh
        refine ⟨⟨first, others, hfirst, hothers, rfl⟩, ⟨fun hmem => ?_, hnodup⟩, hnew,
          fun key' hkey' hmem => ?_⟩
        · exact hfresh key hmem List.mem_cons_self
        · exact hfresh key' hkey' (List.mem_cons_of_mem _ hmem)
      · rintro ⟨⟨first, others, hfirst, hothers, rfl⟩, ⟨hnot, hnodup⟩, hnew, hfresh⟩
        refine ⟨first, ⟨hfirst, hnew⟩, others, ⟨hothers, hnodup, fun key' hkey' => ?_⟩, rfl⟩
        rw [hfirst.scriptKey?_eq]
        intro hmem
        rcases List.mem_cons.mp hmem with rfl | hmem
        · exact hnot hkey'
        · exact hfresh key' hkey' hmem

theorem forall₂_renders {containers : List Container} {composed : List ComposedContainer}
    (h : List.Forall₂ (Composes ctx interactive groups) (withKeys anonymous containers) composed) :
    List.Forall₂ (ComposedContainer.Renders ctx interactive groups) containers composed := by
  induction containers generalizing anonymous composed with
  | nil =>
    cases h
    exact .nil
  | cons container rest ih =>
    cases h with
    | cons hfirst hothers => exact .cons hfirst.renders (ih hothers)

theorem scriptKeys_eq {keyed : List (Container × Option String)}
    {composed : List ComposedContainer}
    (h : List.Forall₂ (Composes ctx interactive groups) keyed composed) :
    composed.filterMap ComposedContainer.scriptKey? = keyed.filterMap Prod.snd := by
  have hkeys := map_eq_map_of_forall₂ h (f := Prod.snd) (g := ComposedContainer.scriptKey?)
    fun _ _ hcomposes => hcomposes.scriptKey?_eq.symm
  have hall := congrArg (List.filterMap id) hkeys
  rw [List.filterMap_map, List.filterMap_map] at hall
  exact hall.symm

/-! ## Keys -/

/-- Containers at the end have no part in the keys of those before them. -/
theorem withKeys_append (own support : List Container) (anonymous : ℕ) :
    withKeys anonymous (own ++ support) =
      withKeys anonymous own ++
        withKeys (own.foldl (fun n c => countAnonymous c n) anonymous) support := by
  induction own generalizing anonymous with
  | nil => rfl
  | cons c own ih =>
    rw [List.cons_append, withKeys, ih]
    rfl

/-- What happens to containers one by one leaves their keys, as long as it does not rename or
reroute a script. -/
theorem withKeys_map {f : Container → Container} (hpersist : ∀ c, (f c).persistScript = c.persistScript)
    (hname : ∀ c, (f c).script.name = c.script.name) (containers : List Container) (anonymous : ℕ) :
    withKeys anonymous (containers.map f) = (withKeys anonymous containers).map (Prod.map f id) := by
  induction containers generalizing anonymous with
  | nil => rfl
  | cons container rest ih =>
    have hkey : keyOf? anonymous (f container) = keyOf? anonymous container := by
      simp only [keyOf?, scriptKey, hpersist, hname]
    have hcount : countAnonymous (f container) anonymous = countAnonymous container anonymous := by
      simp only [countAnonymous, hpersist, hname]
    rw [List.map_cons, withKeys, withKeys, List.map_cons, hkey, hcount, ih]
    rfl

/-- Scripts with names do not count. -/
theorem withKeys_of_named {support : List Container}
    (h : ∀ c ∈ support, c.script.name.isSome = true) (anonymous : ℕ) :
    withKeys anonymous support = support.map fun c => (c, keyOf? 0 c) := by
  induction support with
  | nil => rfl
  | cons c support ih =>
    obtain ⟨name, hname⟩ := Option.isSome_iff_exists.mp (h c List.mem_cons_self)
    have hkey : keyOf? anonymous c = keyOf? 0 c := by
      simp [keyOf?, scriptKey, hname]
    have hcount : countAnonymous c anonymous = anonymous := by
      simp [countAnonymous, hname]
    rw [withKeys, hkey, hcount, ih fun c hc => h c (List.mem_cons_of_mem _ hc)]
    rfl

theorem withKeys_append_of_named {support : List Container}
    (h : ∀ c ∈ support, c.script.name.isSome = true) (own : List Container) (anonymous : ℕ) :
    withKeys anonymous (own ++ support) =
      withKeys anonymous own ++ support.map fun c => (c, keyOf? 0 c) := by
  rw [withKeys_append, withKeys_of_named h]

/-! ## The composition -/

theorem volumeClash?_eq_none_iff {volumes : List Volume} {volume? : Option Volume} :
    volumeClash? volumes volume? = none ↔
      ∀ volume ∈ volume?, volume.name ∉ volumes.map Volume.name := by
  cases volume? <;> simp [volumeClash?]

theorem render_eq_ok_iff {assembly : Assembly} {c : Composition} :
    render ctx interactive resolution assembly = .ok c ↔
      ∃ containers,
        composeContainers ctx interactive resolution assembly.groups 0 [] assembly.containers =
          .ok containers ∧
        volumeClash? assembly.volumes
          (scriptVolume ctx (containers.filterMap ComposedContainer.scriptKey?)) = none ∧
        c = {
          name := ctx.setName
          jobGroups := assembly.groups
          containers
          volumes := assembly.volumes
          entrypointVolume :=
            scriptVolume ctx (containers.filterMap ComposedContainer.scriptKey?)
          resolved := resolution.uses } := by
  simp only [render, bind_eq_ok_iff, ↓check_bind_eq_ok_iff, pure_eq_ok_iff]
  exact exists_congr fun containers => and_congr_right fun _ => and_congr_right fun _ => eq_comm

theorem volumes_of_render {assembly : Assembly} {c : Composition}
    (h : render ctx interactive resolution assembly = .ok c) : c.volumes = assembly.volumes := by
  obtain ⟨containers, -, -, rfl⟩ := render_eq_ok_iff.mp h
  rfl

theorem resolved_of_render {assembly : Assembly} {c : Composition}
    (h : render ctx interactive resolution assembly = .ok c) : c.resolved = resolution.uses := by
  obtain ⟨containers, -, -, rfl⟩ := render_eq_ok_iff.mp h
  rfl

theorem forall₂_renders_of_render {assembly : Assembly} {c : Composition}
    (h : render ctx interactive resolution assembly = .ok c) :
    List.Forall₂ (ComposedContainer.Renders ctx interactive c.jobGroups) assembly.containers
      c.containers := by
  obtain ⟨containers, hcontainers, -, rfl⟩ := render_eq_ok_iff.mp h
  exact forall₂_renders (composeContainers_eq_ok_iff.mp hcontainers).1

/-- A composition has the containers of the assembly, each with its key. -/
theorem keyed_of_render {a : Assembly} {c : Composition}
    (h : render ctx interactive resolution a = .ok c) :
    c.containers.map (fun k => (k.spec, k.scriptKey?)) = withKeys 0 a.containers := by
  obtain ⟨containers, hcontainers, -, rfl⟩ := render_eq_ok_iff.mp h
  have hkeyed := map_eq_map_of_forall₂ (composeContainers_eq_ok_iff.mp hcontainers).1 (f := id)
    (g := fun k : ComposedContainer => (k.spec, k.scriptKey?))
    fun keyed composed hcomposes => Prod.ext hcomposes.spec_eq.symm hcomposes.scriptKey?_eq.symm
  rw [← hkeyed, List.map_id]

theorem nodup_scriptKeys_of_render {a : Assembly} {c : Composition}
    (h : render ctx interactive resolution a = .ok c) :
    (c.containers.filterMap ComposedContainer.scriptKey?).Nodup := by
  obtain ⟨containers, hcontainers, -, rfl⟩ := render_eq_ok_iff.mp h
  obtain ⟨hcomposes, hnodup, -⟩ := composeContainers_eq_ok_iff.mp hcontainers
  rw [scriptKeys_eq hcomposes]
  exact hnodup

/-- Rendering keeps containers as they are, in their order. -/
theorem specs_of_render {assembly : Assembly} {c : Composition}
    (h : render ctx interactive resolution assembly = .ok c) :
    c.containers.map ComposedContainer.spec = assembly.containers := by
  have hspecs := map_eq_map_of_forall₂ (forall₂_renders_of_render h) (f := id)
    (g := ComposedContainer.spec) fun _ _ hrenders => hrenders.spec.symm
  rw [← hspecs, List.map_id]

end Composition

end MeasuredJob
