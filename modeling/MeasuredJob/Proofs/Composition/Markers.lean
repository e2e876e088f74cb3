import MeasuredJob.Proofs.Composition.Names
import MeasuredJob.Proofs.Composition.Stages
import MeasuredJob.Proofs.Script.Markers

/-!
# Markers in a composition

Every contributed fragment and command is searched for markers.  The shell, the name of the
composition, the names of the job group and of the container and the idle command reach a script
unsearched, so they decide whether a log reader can rely on the markers.
-/

namespace MeasuredJob

theorem Stages.markedOnce_iff {registry : Registry} {settings : Settings} {name : String}
    {decl : Declaration} {resolution : Resolution} {contributed customized : Assembly}
    {c : Composition}
    (h : Stages registry settings name decl resolution contributed customized c)
    {k : ComposedContainer} (hk : k ∈ c.containers) :
    Script.MarkedOnce k.script ↔
      ∀ t ∈ Script.uncheckedTexts name settings decl.logging.interactive k.spec,
        Marker.find? t = none := by
  obtain ⟨group, hgroup, hrender⟩ := (h.renders_of_mem hk).script
  have hname : group.name = k.spec.jobGroup := (Assembly.name_of_findGroup? hgroup).2
  obtain ⟨hfound, hscript⟩ := Script.render_eq_ok_iff.mp hrender
  rw [hscript]
  exact Script.markedOnce_text_iff hname hfound

/-- A script of a composition has each marker once exactly when the texts that are not searched have
none. -/
theorem markedOnce_iff_of_compose {registry : Registry} {settings : Settings} {name : String}
    {decl : Declaration} {c : Composition} (h : decl.compose registry settings name = .ok c) :
    ∀ k ∈ c.containers, Script.MarkedOnce k.script ↔
      ∀ t ∈ Script.uncheckedTexts name settings decl.logging.interactive k.spec,
        Marker.find? t = none := by
  intro k hk
  obtain ⟨resolution, contributed, customized, hstages⟩ := compose_eq_ok_iff.mp h
  exact hstages.markedOnce_iff hk

/-- Ordinary names have no marker, so the log of every container can be read. -/
theorem markedOnce_of_ordinary_names :
    ∃ c, Sample.declaration.compose Sample.registry {} "set" = .ok c ∧ c.containers ≠ [] ∧
      ∀ k ∈ c.containers, Script.MarkedOnce k.script := by
  obtain ⟨c, h⟩ : ∃ c, Sample.declaration.compose Sample.registry {} "set" = .ok c :=
    Success.exists_of_isOk (by decide +kernel)
  have hfree : (Sample.declaration.compose Sample.registry {} "set").map (fun c =>
      !c.containers.isEmpty && c.containers.all fun k =>
        (Script.uncheckedTexts "set" {} false k.spec).all fun t => (Marker.find? t).isNone) =
      .ok true := by
    decide +kernel
  rw [h] at hfree
  obtain ⟨hne, hall⟩ := Bool.and_eq_true_iff.mp (Except.ok.inj hfree)
  refine ⟨c, h, by simpa using hne, fun k hk => ?_⟩
  refine (markedOnce_iff_of_compose h k hk).mpr fun t ht => ?_
  exact Option.isNone_iff_eq_none.mp (List.all_eq_true.mp (List.all_eq_true.mp hall k hk) t ht)

namespace Sample

/-- The idle command prints a marker. -/
def noisySettings : Settings :=
  { idleCommand := "echo METRICS OPERATOR COLLECTION END; sleep infinity" }

end Sample

/-- An idle command that prints the last marker makes every script print it twice. -/
theorem marked_twice_by_idleCommand :
    ∃ c, Sample.interactive.compose Sample.registry Sample.noisySettings "set" = .ok c ∧
      c.containers.length = 3 ∧ ∀ k ∈ c.containers, ¬Script.MarkedOnce k.script := by
  obtain ⟨c, h⟩ : ∃ c, Sample.interactive.compose Sample.registry Sample.noisySettings "set" =
      .ok c := Success.exists_of_isOk (by decide +kernel)
  have hlength : (Sample.interactive.compose Sample.registry Sample.noisySettings "set").map
      (fun c => c.containers.length) = .ok 3 := by
    decide +kernel
  rw [h] at hlength
  obtain ⟨resolution, contributed, customized, hstages⟩ := compose_eq_ok_iff.mp h
  refine ⟨c, h, Except.ok.inj hlength, fun k hk hmarked => ?_⟩
  have hidle : Sample.noisySettings.idleCommand ∈
      Script.uncheckedTexts "set" Sample.noisySettings true k.spec :=
    List.mem_append_right _ List.mem_cons_self
  have hnone : Marker.find? Sample.noisySettings.idleCommand = none :=
    (hstages.markedOnce_iff hk).mp hmarked _ hidle
  exact absurd hnone (by decide +kernel)

end MeasuredJob
