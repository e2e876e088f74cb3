import MeasuredJob.Proofs.Assembly.Contributors
import MeasuredJob.Proofs.Plugin.Declared
import MeasuredJob.Proofs.Script.HereDocument

/-!
# Fragments of the library

The plugins of the library put shell text before the commands of containers.  What a fragment is
shows in its first characters, so no plugin writes by accident what another one waits for.
-/

namespace MeasuredJob

/-! ## Lines -/

theorem Shell.second_eq_of_lines_eq {l x y : String} {ls : List String}
    (h : lines (l :: x :: ls) = lines (l :: y :: ls)) : x = y := by
  rw [lines_cons_cons, lines_cons_cons, String.append_right_inj] at h
  cases ls with
  | nil => exact h
  | cons l' ls =>
    rw [lines_cons_cons, lines_cons_cons, String.append_left_inj, String.append_left_inj] at h
    exact h

theorem Shell.prefix_lines (l : String) (ls : List String) :
    l.toList <+: (lines (l :: ls)).toList := by
  cases ls with
  | nil => exact List.prefix_refl _
  | cons l' ls =>
    rw [lines_cons_cons, String.toList_append, String.toList_append, List.append_assoc]
    exact List.prefix_append _ _

/-- Texts that start differently are different. -/
theorem ne_of_prefix {s t : String} {before before' : List Char} (hs : before <+: s.toList)
    (ht : before' <+: t.toList) (hlength : before.length = before'.length)
    (hne : before ≠ before') : s ≠ t := by
  intro heq
  rw [← heq] at ht
  have hstart := List.prefix_of_prefix_length_le hs ht (Nat.le_of_eq hlength)
  exact hne (hstart.eq_of_length hlength)

/-! ## Starts of fragments -/

theorem Workload.prefix_hostlist (ctx : Context) : ['#', ' ', 'W'] <+: (hostlist ctx).toList :=
  List.IsPrefix.trans (by decide) (Shell.prefix_lines _ _)

theorem Sampler.prefix_waitFragment (command : String) :
    ['e', 'c', 'h'] <+: (waitFragment command).toList :=
  List.IsPrefix.trans (by decide) (Shell.prefix_lines _ _)

theorem Sampler.prefix_loopFragment (options : Options) :
    ['c', 'a', 't'] <+: (loopFragment options).toList :=
  List.IsPrefix.trans (by decide) (Shell.prefix_lines _ _)

namespace Profiler

theorem prefix_waitFragment (mount : String) :
    ['#', ' ', 'H'] <+: (waitFragment mount).toList :=
  List.IsPrefix.trans (by decide) (Shell.prefix_lines _ _)

theorem prefix_viewFragment (mount : String) :
    ['e', 'c', 'h'] <+: (viewFragment mount).toList := by
  refine List.IsPrefix.trans ?_ (Shell.prefix_lines _ _)
  rw [Shell.echo, String.toList_append]
  exact List.IsPrefix.trans (by decide) (List.prefix_append _ _)

-- Three characters are enough to tell the fragments of the library apart.
theorem waitFragment_ne {mount fragment : String} {before : List Char}
    (hstart : before <+: fragment.toList) (hlength : before.length = 3)
    (hne : ['#', ' ', 'H'] ≠ before) : waitFragment mount ≠ fragment :=
  ne_of_prefix (prefix_waitFragment mount) hstart hlength.symm hne

theorem waitFragment_ne_viewFragment (mount mount' : String) :
    waitFragment mount ≠ viewFragment mount' :=
  waitFragment_ne (prefix_viewFragment mount') rfl (by decide)

theorem waitFragment_inj {mount mount' : String} (h : waitFragment mount = waitFragment mount') :
    mount = mount' := by
  have hline : "viewbase=" ++ Shell.quoted mount = "viewbase=" ++ Shell.quoted mount' :=
    Shell.second_eq_of_lines_eq h
  rw [String.append_right_inj, Shell.quoted, Shell.quoted, String.append_left_inj,
    String.append_right_inj] at hline
  exact hline

end Profiler

/-! ## Contributed fragments -/

namespace Builtin

theorem DeclaresMetric.waitFragment_notMem {use : PluginUse} {metric : Metric}
    (h : DeclaresMetric use metric) {ctx : Context} {containers : List Container}
    (hcontainers : metric.containers ctx = .ok containers) (mount : String) :
    ∀ c ∈ containers, Profiler.waitFragment mount ∉ c.script.pre := by
  intro c hc
  cases h with
  | workload =>
    cases hcontainers
    have hhosts : Profiler.waitFragment mount ≠ Workload.hostlist ctx :=
      Profiler.waitFragment_ne (Workload.prefix_hostlist ctx) rfl (by decide)
    simp only [Workload.containers, List.mem_cons, List.not_mem_nil, or_false] at hc
    rcases hc with rfl | rfl
    · exact List.not_mem_cons_of_ne_of_not_mem hhosts List.not_mem_nil
    · exact List.not_mem_nil
  | sampler _ options =>
    change Sampler.containers options ctx = .ok containers at hcontainers
    rw [Sampler.containers] at hcontainers
    split at hcontainers
    · cases hcontainers
    · rename_i app _
      cases hcontainers
      have hwait : Profiler.waitFragment mount ≠ Sampler.waitFragment app.command :=
        Profiler.waitFragment_ne (Sampler.prefix_waitFragment app.command) rfl (by decide)
      have hloop : Profiler.waitFragment mount ≠ Sampler.loopFragment options :=
        Profiler.waitFragment_ne (Sampler.prefix_loopFragment options) rfl (by decide)
      rw [List.mem_singleton.mp hc]
      exact List.not_mem_cons_of_ne_of_not_mem hwait
        (List.not_mem_cons_of_ne_of_not_mem hloop List.not_mem_nil)

theorem DeclaresAddon.waitFragment_notMem {use : PluginUse} {addon : Addon}
    (h : DeclaresAddon use addon) {ctx : Context} {group : JobGroup} {containers : List Container}
    (hcontainers : addon.containers group ctx = .ok containers) (mount : String) :
    ∀ c ∈ containers, Profiler.waitFragment mount ∉ c.script.pre := by
  intro c hc
  cases h with
  | companion =>
    cases hcontainers
    rw [List.mem_singleton.mp hc]
    exact List.not_mem_nil
  | profiler =>
    cases hcontainers
    have hview := Profiler.waitFragment_ne_viewFragment mount (Profiler.readOptions use.bag).mount
    rw [List.mem_singleton.mp hc]
    exact List.not_mem_cons_of_ne_of_not_mem hview List.not_mem_nil
  | mount =>
    cases hcontainers
    exact absurd hc List.not_mem_nil

end Builtin

/-- No container waits for the view of the profiler before the second phase. -/
theorem Assembly.waitFragment_notMem {decl : Declaration} {resolution : Resolution} {ctx : Context}
    {a : Assembly} (hresolved : Builtin.registry.resolveAll decl = .ok resolution)
    (h : assemble ctx resolution = .ok a) (mount : String) :
    ∀ c ∈ a.containers, Profiler.waitFragment mount ∉ c.script.pre := by
  intro c hc
  cases origin_assemble h c hc with
  | @metric metric index hmetric happlication containers hcontainers c' hc' =>
    obtain ⟨use, -, hof⟩ := Success.exists_of_mem_right
      (Builtin.forall₂_declaresMetric hresolved) (List.mem_of_getElem? hmetric)
    have hscript : (adoptFromMetric metric.behaviour.kind index c').script = c'.script := by
      cases metric.behaviour.kind <;> rfl
    rw [hscript]
    exact hof.waitFragment_notMem hcontainers mount c' hc'
  | application happ => exact List.not_mem_nil
  | @addon addon index haddon group hgroup containers hcontainers c' hc' =>
    obtain ⟨use, -, hof⟩ := Success.exists_of_mem_right
      (Builtin.forall₂_declaresAddon hresolved) (List.mem_of_getElem? haddon)
    exact hof.waitFragment_notMem hcontainers mount c' hc'

end MeasuredJob
