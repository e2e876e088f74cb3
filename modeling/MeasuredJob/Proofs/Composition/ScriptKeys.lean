import MeasuredJob.Proofs.Composition.Readiness
import MeasuredJob.Proofs.Failure

/-!
# Keys of scripts

A persisted script has a key that is made from its name, or from a number when it has none.  Numbers
stand at the end of a key and names never do, so that only two equal names can make two equal keys.
Rendering gives the keys out one by one and ends at the first one that has been given out before.
-/

namespace MeasuredJob

open Success Failure

/-! ## Texts of keys -/

theorem repr_inj {m n : ℕ} (h : m.repr = n.repr) : m = n := by
  have hdigits : Nat.toDigits 10 m = Nat.toDigits 10 n := by
    have htexts := congrArg String.toList h
    rwa [Nat.toList_repr, Nat.toList_repr] at htexts
  calc
    m = Nat.ofDigitChars 10 (Nat.toDigits 10 m) 0 := Nat.ofDigitChars_ten_toDigits.symm
    _ = Nat.ofDigitChars 10 (Nat.toDigits 10 n) 0 := by rw [hdigits]
    _ = n := Nat.ofDigitChars_ten_toDigits

theorem getLast?_repr (n : ℕ) : ∃ c, n.repr.toList.getLast? = some c ∧ c.isDigit = true := by
  rw [Nat.toList_repr]
  refine ⟨_, List.getLast?_eq_some_getLast Nat.toDigits_ne_nil, ?_⟩
  exact Nat.isDigit_of_mem_toDigits (by decide) (by decide) (List.getLast_mem _)

namespace Composition

/-- A number stands at the end of a key, or a word does. -/
theorem named_ne_numbered (label : String) (n : ℕ) :
    label ++ "-entrypoint" ≠ "entrypoint-" ++ n.repr := by
  intro h
  obtain ⟨c, hlast, hdigit⟩ := getLast?_repr n
  have hends := congrArg (fun s : String => s.toList.getLast?) h
  simp only [String.toList_append, List.getLast?_append, hlast] at hends
  have ht : some 't' = some c := hends
  cases ht
  exact absurd hdigit (by decide)

theorem numbered_inj {m n : ℕ} (h : "entrypoint-" ++ m.repr = "entrypoint-" ++ n.repr) :
    m = n :=
  repr_inj ((String.append_right_inj _).mp h)

theorem named_inj {label label' : String}
    (h : label ++ "-entrypoint" = label' ++ "-entrypoint") : label = label' :=
  (String.append_left_inj _).mp h

end Composition

/-! ## Named and numbered scripts -/

/-- The name of the script, if the script is persisted. -/
def Container.label? (container : Container) : Option String :=
  if container.persistScript then container.script.name else none

/-- The script is persisted, and it has no name. -/
def Container.isNumbered (container : Container) : Bool :=
  container.persistScript && container.script.name.isNone

namespace Composition

variable {anonymous : ℕ} {container : Container} {containers : List Container} {key : String}

/-- A container has no key, a numbered one, or one that is made from a name. -/
theorem keyOf?_cases (container : Container) (anonymous : ℕ) :
    (container.isNumbered = false ∧ container.label? = none ∧
        keyOf? anonymous container = none) ∨
      (container.isNumbered = true ∧ container.label? = none ∧
        keyOf? anonymous container = some ("entrypoint-" ++ anonymous.repr)) ∨
      ∃ label, container.isNumbered = false ∧ container.label? = some label ∧
        keyOf? anonymous container = some (label ++ "-entrypoint") := by
  rw [keyOf?, Container.isNumbered, Container.label?, scriptKey]
  cases container.persistScript with
  | false => simp
  | true => cases container.script.name <;> simp

theorem countAnonymous_eq (container : Container) (anonymous : ℕ) :
    countAnonymous container anonymous = anonymous + [container].countP Container.isNumbered := by
  have hnumbered : container.isNumbered = true ↔
      container.persistScript = true ∧ container.script.name = none := by
    rw [Container.isNumbered, Bool.and_eq_true, Option.isNone_iff_eq_none]
  rw [countAnonymous, if_congr hnumbered.symm rfl rfl, List.countP_singleton]
  split <;> rfl

theorem keys_withKeys_cons (anonymous : ℕ) (container : Container) (rest : List Container) :
    (withKeys anonymous (container :: rest)).filterMap Prod.snd =
      (keyOf? anonymous container).toList ++
        (withKeys (countAnonymous container anonymous) rest).filterMap Prod.snd := by
  rw [withKeys, List.filterMap_cons]
  cases keyOf? anonymous container <;> rfl

/-- The keys that have been given out are made from the numbers that have been used and from the
names so far. -/
theorem mem_keys_withKeys_iff :
    key ∈ (withKeys anonymous containers).filterMap Prod.snd ↔
      (∃ i < containers.countP Container.isNumbered,
        key = "entrypoint-" ++ (anonymous + i).repr) ∨
      ∃ label ∈ containers.filterMap Container.label?, key = label ++ "-entrypoint" := by
  induction containers generalizing anonymous with
  | nil => simp [withKeys]
  | cons container rest ih =>
    rw [keys_withKeys_cons, List.mem_append, ih, countAnonymous_eq, List.countP_singleton]
    rcases keyOf?_cases container anonymous with ⟨hnumbered, hlabel, hkey⟩ |
      ⟨hnumbered, hlabel, hkey⟩ | ⟨label, hnumbered, hlabel, hkey⟩
    · simp [hnumbered, hlabel, hkey]
    · have hshift : ∀ i, anonymous + 1 + i = anonymous + (i + 1) := by
        omega
      simp only [hnumbered, hkey, List.countP_cons, if_true, List.filterMap_cons_none hlabel,
        Nat.exists_lt_succ_left, hshift]
      simp [or_assoc]
    · simp only [hnumbered, hkey, List.countP_cons, Bool.false_eq_true, if_false, Nat.add_zero,
        List.filterMap_cons_some hlabel, List.exists_mem_cons_iff, Option.toList_some,
        List.mem_singleton]
      rw [or_left_comm]

theorem named_mem_keys_iff {label : String} :
    label ++ "-entrypoint" ∈ (withKeys anonymous containers).filterMap Prod.snd ↔
      label ∈ containers.filterMap Container.label? := by
  rw [mem_keys_withKeys_iff]
  constructor
  · rintro (⟨i, -, hi⟩ | ⟨label', hmem, hsame⟩)
    · exact absurd hi (named_ne_numbered label _)
    · exact named_inj hsame ▸ hmem
  · intro hmem
    exact .inr ⟨label, hmem, rfl⟩

theorem numbered_mem_keys_iff {n : ℕ} :
    "entrypoint-" ++ n.repr ∈ (withKeys anonymous containers).filterMap Prod.snd ↔
      anonymous ≤ n ∧ n < anonymous + containers.countP Container.isNumbered := by
  rw [mem_keys_withKeys_iff]
  constructor
  · rintro (⟨i, hi, hsame⟩ | ⟨label, -, hsame⟩)
    · have hn := numbered_inj hsame
      omega
    · exact absurd hsame.symm (named_ne_numbered label n)
  · rintro ⟨hle, hlt⟩
    refine .inl ⟨n - anonymous, by omega, ?_⟩
    rw [Nat.add_sub_cancel' hle]

/-- Only names can make two keys equal. -/
theorem nodup_keys_withKeys_iff :
    ((withKeys anonymous containers).filterMap Prod.snd).Nodup ↔
      (containers.filterMap Container.label?).Nodup := by
  induction containers generalizing anonymous with
  | nil => simp [withKeys]
  | cons container rest ih =>
    rw [keys_withKeys_cons]
    rcases keyOf?_cases container anonymous with ⟨-, hlabel, hkey⟩ | ⟨hnumbered, hlabel, hkey⟩ |
      ⟨label, -, hlabel, hkey⟩
    · rw [hkey, List.filterMap_cons_none hlabel, Option.toList_none, List.nil_append, ih]
    · -- The containers behind it have larger numbers.
      have hfresh : "entrypoint-" ++ anonymous.repr ∉
          (withKeys (countAnonymous container anonymous) rest).filterMap Prod.snd := by
        rw [numbered_mem_keys_iff, countAnonymous_eq, List.countP_singleton, if_pos hnumbered]
        omega
      rw [hkey, List.filterMap_cons_none hlabel, Option.toList_some, List.singleton_append,
        List.nodup_cons, ih]
      exact and_iff_right hfresh
    · rw [hkey, List.filterMap_cons_some hlabel, Option.toList_some, List.singleton_append,
        List.nodup_cons, List.nodup_cons, ih, named_mem_keys_iff]

/-! ## Failures -/

variable {ctx : Context} {interactive : Bool} {resolution : Resolution} {groups : List JobGroup}
  {keys : List String} {e : Error}

/-- How rendering a container fails when `keys` have been given out before. -/
inductive Fails (resolution : Resolution) (groups : List JobGroup) (anonymous : ℕ)
    (keys : List String) (container : Container) : Error → Prop where
  | unplaced (hgroup : Assembly.findGroup? groups container.jobGroup = none) :
      Fails resolution groups anonymous keys container
        (.unknownJobGroup (resolution.contributorName container.contributor) container.jobGroup)
  | marked {group : JobGroup}
      (hgroup : Assembly.findGroup? groups container.jobGroup = some group) {m : Marker}
      (hfound : container.script.foundMarker? = some m) :
      Fails resolution groups anonymous keys container (.markerInFragment container.name m)
  | repeated (hready : container.Ready groups) {key : String}
      (hkey : key ∈ keyOf? anonymous container) (hmem : key ∈ keys) :
      Fails resolution groups anonymous keys container (.duplicateScript key)

/-- The order in which keys have been given out plays no part. -/
theorem Fails.of_keys {keys' : List String}
    (h : Fails resolution groups anonymous keys container e) (hkeys : keys ⊆ keys') :
    Fails resolution groups anonymous keys' container e := by
  cases h with
  | unplaced hgroup => exact .unplaced hgroup
  | marked hgroup hfound => exact .marked hgroup hfound
  | repeated hready hkey hmem => exact .repeated hready hkey (hkeys hmem)

theorem fails_of_composeContainer
    (h : composeContainer ctx interactive resolution groups anonymous keys container = .error e) :
    Fails resolution groups anonymous keys container e := by
  rw [composeContainer] at h
  cases hgroup : Assembly.findGroup? groups container.jobGroup with
  | none =>
    simp only [hgroup, Except.error.injEq] at h
    exact h ▸ .unplaced hgroup
  | some group =>
    simp only [hgroup, bind_eq_error_iff] at h
    rcases h with hrender | ⟨script, hrender, hlaunch⟩
    · obtain ⟨m, hfound, rfl⟩ := Script.render_eq_error_iff.mp hrender
      exact .marked hgroup hfound
    · have hready : container.Ready groups :=
        ⟨Assembly.hasGroup_of_findGroup? hgroup, (Script.render_eq_ok_iff.mp hrender).1⟩
      cases hpersist : container.persistScript with
      | true =>
        simp only [hpersist, if_true, guard_eq_error_iff, pure_ne_error, and_false,
          or_false] at hlaunch
        obtain ⟨hmem, rfl⟩ := hlaunch
        refine .repeated hready ?_ hmem
        rw [keyOf?, if_pos hpersist]
        rfl
      | false => simp [hpersist] at hlaunch

theorem Fails.composeContainer_eq_error
    (h : Fails resolution groups anonymous keys container e) :
    composeContainer ctx interactive resolution groups anonymous keys container = .error e := by
  cases h with
  | unplaced hgroup => rw [composeContainer, hgroup]
  | marked hgroup hfound =>
    rw [composeContainer, hgroup]
    exact bind_eq_error_iff.mpr (.inl (Script.render_eq_error_iff.mpr ⟨_, hfound, rfl⟩))
  | repeated hready hkey hmem =>
    obtain ⟨group, hgroup⟩ := Assembly.exists_findGroup?_of_hasGroup hready.1
    rw [composeContainer, hgroup]
    refine bind_eq_error_iff.mpr (.inr ⟨_, Script.render_eq_ok_iff.mpr ⟨hready.2, rfl⟩, ?_⟩)
    rw [keyOf?] at hkey
    split at hkey
    · rename_i hpersist
      obtain rfl := Option.some.inj hkey
      simp only [hpersist, if_true, guard_eq_error_iff]
      exact .inl ⟨hmem, trivial⟩
    · cases hkey

/-- Rendering ends at the first container that it fails at. -/
theorem composeContainers_eq_error_iff :
    composeContainers ctx interactive resolution groups anonymous keys containers = .error e ↔
      ∃ before c after, containers = before ++ c :: after ∧
        (∃ composed, composeContainers ctx interactive resolution groups anonymous keys before =
          .ok composed) ∧
        Fails resolution groups (anonymous + before.countP Container.isNumbered)
          ((withKeys anonymous before).filterMap Prod.snd ++ keys) c e := by
  induction containers generalizing anonymous keys with
  | nil => simp [composeContainers]
  | cons container rest ih =>
    have hcount : ∀ before : List Container,
        countAnonymous container anonymous + before.countP Container.isNumbered =
          anonymous + (container :: before).countP Container.isNumbered := by
      intro before
      rw [countAnonymous_eq, Nat.add_assoc, ← List.countP_append, List.singleton_append]
    -- The key of the first container counts among the keys so far, wherever it stands.
    have hused : ∀ (before : List Container) (key : String),
        key ∈ (withKeys (countAnonymous container anonymous) before).filterMap Prod.snd ++
            ((keyOf? anonymous container).toList ++ keys) ↔
          key ∈ (withKeys anonymous (container :: before)).filterMap Prod.snd ++ keys := by
      intro before key
      rw [keys_withKeys_cons]
      simp only [List.mem_append]
      rw [or_left_comm, or_assoc]
    have hfirstKey : ∀ {composed}, composeContainer ctx interactive resolution groups anonymous
        keys container = .ok composed → composed.scriptKey? = keyOf? anonymous container :=
      fun hfirst => (composeContainer_eq_ok_iff.mp hfirst).1.scriptKey?_eq
    rw [composeContainers, bind_eq_error_iff]
    simp only [bind_eq_error_iff, pure_ne_error, and_false, exists_false, or_false]
    constructor
    · rintro (hfirst | ⟨composed, hfirst, hothers⟩)
      · exact ⟨[], container, rest, rfl, ⟨[], rfl⟩, fails_of_composeContainer hfirst⟩
      · rw [hfirstKey hfirst] at hothers
        obtain ⟨before, c, after, rfl, ⟨others, hbefore⟩, hfails⟩ := ih.mp hothers
        refine ⟨container :: before, c, after, rfl, ⟨composed :: others, ?_⟩, ?_⟩
        · rw [composeContainers, bind_eq_ok_iff]
          refine ⟨composed, hfirst, bind_eq_ok_iff.mpr ⟨others, ?_, rfl⟩⟩
          rw [hfirstKey hfirst]
          exact hbefore
        · rw [← hcount]
          exact hfails.of_keys fun key => (hused before key).mp
    · rintro ⟨before, c, after, hsplit, ⟨composed, hbefore⟩, hfails⟩
      cases before with
      | nil =>
        rw [List.nil_append, List.cons.injEq] at hsplit
        obtain ⟨rfl, rfl⟩ := hsplit
        exact .inl hfails.composeContainer_eq_error
      | cons first before =>
        rw [List.cons_append, List.cons.injEq] at hsplit
        obtain ⟨rfl, rfl⟩ := hsplit
        simp only [composeContainers, bind_eq_ok_iff, pure_eq_ok_iff] at hbefore
        obtain ⟨first, hfirst, others, hothers, -⟩ := hbefore
        rw [← hcount] at hfails
        refine .inr ⟨first, hfirst, ih.mpr ?_⟩
        rw [hfirstKey hfirst] at hothers ⊢
        exact ⟨before, c, after, rfl, ⟨others, hothers⟩,
          hfails.of_keys fun key => (hused before key).mpr⟩

/-! ## Repeated names -/

theorem label?_eq_some_iff {label : String} :
    container.label? = some label ↔
      container.persistScript = true ∧ container.script.name = some label := by
  rw [Container.label?]
  cases container.persistScript <;> simp

theorem exists_composeContainers_iff (hready : ∀ c ∈ containers, c.Ready groups) :
    (∃ composed, composeContainers ctx interactive resolution groups 0 [] containers =
      .ok composed) ↔ (containers.filterMap Container.label?).Nodup := by
  rw [← @nodup_keys_withKeys_iff 0]
  constructor
  · rintro ⟨composed, h⟩
    exact (composeContainers_eq_ok_iff.mp h).2.1
  · intro hnodup
    obtain ⟨composed, hcomposes⟩ := exists_forall₂_of_forall
      (R := Composes ctx interactive groups) fun keyed hkeyed =>
        exists_composes_iff.mpr ((forall_withKeys_iff (Container.Ready groups) 0).mpr hready keyed
          hkeyed)
    exact ⟨composed, composeContainers_eq_ok_iff.mpr
      ⟨hcomposes, hnodup, fun _ _ => List.not_mem_nil⟩⟩

/-- A key that has been given out before is made from a name that came before. -/
theorem repeats_label {before : List Container}
    (hkey : key ∈ keyOf? (before.countP Container.isNumbered) container)
    (hmem : key ∈ (withKeys 0 before).filterMap Prod.snd) :
    ∃ label, container.label? = some label ∧ label ∈ before.filterMap Container.label? ∧
      key = label ++ "-entrypoint" := by
  rcases keyOf?_cases container (before.countP Container.isNumbered) with ⟨-, -, hnone⟩ |
    ⟨-, -, hnumber⟩ | ⟨label, -, hlabel, hnamed⟩
  · cases hnone.symm.trans hkey
  · -- The numbers so far are smaller.
    obtain rfl := Option.some.inj (hnumber.symm.trans hkey)
    have hrange := numbered_mem_keys_iff.mp hmem
    omega
  · obtain rfl := Option.some.inj (hnamed.symm.trans hkey)
    exact ⟨label, hlabel, named_mem_keys_iff.mp hmem, rfl⟩

theorem composeContainers_eq_duplicate_iff (hready : ∀ c ∈ containers, c.Ready groups) :
    composeContainers ctx interactive resolution groups 0 [] containers = .error e ↔
      ∃ before c after label, containers = before ++ c :: after ∧ c.label? = some label ∧
        label ∈ before.filterMap Container.label? ∧
        (before.filterMap Container.label?).Nodup ∧
        e = .duplicateScript (label ++ "-entrypoint") := by
  rw [composeContainers_eq_error_iff]
  simp only [Nat.zero_add, List.append_nil]
  constructor
  · rintro ⟨before, c, after, rfl, hbefore, hfails⟩
    have hnodup := (exists_composeContainers_iff fun c hc =>
      hready c (List.mem_append_left _ hc)).mp hbefore
    have hc : c.Ready groups := hready c (List.mem_append_right _ List.mem_cons_self)
    cases hfails with
    | unplaced hgroup =>
      obtain ⟨group, hsome⟩ := Assembly.exists_findGroup?_of_hasGroup hc.1
      cases hgroup.symm.trans hsome
    | marked _ hfound => cases hfound.symm.trans hc.2
    | repeated _ hkey hmem =>
      obtain ⟨label, hlabel, hrepeated, rfl⟩ := repeats_label hkey hmem
      exact ⟨before, c, after, label, rfl, hlabel, hrepeated, hnodup, rfl⟩
  · rintro ⟨before, c, after, label, rfl, hlabel, hmem, hnodup, rfl⟩
    refine ⟨before, c, after, rfl, (exists_composeContainers_iff fun c hc =>
      hready c (List.mem_append_left _ hc)).mpr hnodup, ?_⟩
    refine .repeated (hready c (List.mem_append_right _ List.mem_cons_self)) ?_
      (named_mem_keys_iff.mpr hmem)
    rw [keyOf?, scriptKey, (label?_eq_some_iff.mp hlabel).1, (label?_eq_some_iff.mp hlabel).2]
    rfl

/-- Names are distinct unless two containers at different places have the same. -/
theorem not_nodup_labels_iff :
    ¬(containers.filterMap Container.label?).Nodup ↔
      ∃ (i j : ℕ) (c c' : Container) (label : String), i < j ∧ containers[i]? = some c ∧
        containers[j]? = some c' ∧ c.label? = some label ∧ c'.label? = some label := by
  rw [List.Nodup, List.pairwise_filterMap, List.pairwise_iff_getElem]
  constructor
  · intro h
    by_contra hnone
    refine h fun i j hi hj hij label hlabel label' hlabel' heq => hnone ?_
    exact ⟨i, j, _, _, label, hij, List.getElem?_eq_getElem hi, List.getElem?_eq_getElem hj,
      hlabel, heq ▸ hlabel'⟩
  · rintro ⟨i, j, c, c', label, hij, hc, hc', hlabel, hlabel'⟩ h
    obtain ⟨hi, rfl⟩ := List.getElem?_eq_some_iff.mp hc
    obtain ⟨hj, rfl⟩ := List.getElem?_eq_some_iff.mp hc'
    exact h i j hi hj hij label hlabel label hlabel' rfl

/-! ## Keys of a composition -/

theorem render_eq_duplicateScript_iff {a : Assembly} :
    render ctx interactive resolution a = .error (.duplicateScript key) ↔
      composeContainers ctx interactive resolution a.groups 0 [] a.containers =
        .error (.duplicateScript key) := by
  have hclash : ∀ volumes volume?, volumeClash? volumes volume? ≠ some (.duplicateScript key) := by
    intro volumes volume?
    cases volume? with
    | none => simp [volumeClash?]
    | some volume =>
      rw [volumeClash?]
      split <;> simp
  simp only [render, bind_eq_error_iff, ↓check_bind_eq_error_iff, pure_ne_error, and_false,
    or_false, hclash, exists_false]

theorem getElem?_withKeys (containers : List Container) (anonymous i : ℕ) :
    (withKeys anonymous containers)[i]? = containers[i]?.map fun c =>
      (c, keyOf? (anonymous + (containers.take i).countP Container.isNumbered) c) := by
  induction containers generalizing anonymous i with
  | nil => rfl
  | cons container rest ih =>
    cases i with
    | zero => rfl
    | succ i =>
      rw [withKeys, List.getElem?_cons_succ, List.getElem?_cons_succ, ih, List.take_succ_cons,
        ← List.singleton_append, List.countP_append, countAnonymous_eq, Nat.add_assoc]

theorem exists_render_eq_duplicateScript_iff {a : Assembly}
    (hready : ∀ c ∈ a.containers, c.Ready a.groups) :
    (∃ key, render ctx interactive resolution a = .error (.duplicateScript key)) ↔
      ¬(a.containers.filterMap Container.label?).Nodup := by
  constructor
  · rintro ⟨key, h⟩ hnodup
    rw [render_eq_duplicateScript_iff] at h
    obtain ⟨composed, hok⟩ := (exists_composeContainers_iff hready).mpr hnodup
    cases h.symm.trans hok
  · intro hrepeated
    cases hrun : composeContainers ctx interactive resolution a.groups 0 [] a.containers with
    | ok composed =>
      exact absurd ((exists_composeContainers_iff hready).mp ⟨composed, hrun⟩) hrepeated
    | error e =>
      obtain ⟨before, c, after, label, -, -, -, -, rfl⟩ :=
        (composeContainers_eq_duplicate_iff hready).mp hrun
      exact ⟨_, render_eq_duplicateScript_iff.mpr hrun⟩

theorem scriptKey?_of_render {a : Assembly} {c : Composition}
    (h : render ctx interactive resolution a = .ok c) {i : ℕ} {k : ComposedContainer}
    (hk : c.containers[i]? = some k) :
    k.scriptKey? = keyOf? ((a.containers.take i).countP Container.isNumbered) k.spec := by
  have hkeyed := congrArg (fun entries => entries[i]?) (keyed_of_render h)
  simp only [List.getElem?_map, hk, Option.map_some, getElem?_withKeys, Nat.zero_add] at hkeyed
  obtain ⟨container, -, hentry⟩ := Option.map_eq_some_iff.mp hkeyed.symm
  obtain ⟨rfl, hkey⟩ := Prod.ext_iff.mp hentry
  exact hkey.symm

end Composition

/-- Where all containers can be rendered, a script is refused exactly if an earlier persisted script
has its name, and the first such script is reported.  In a composition every script has its own key:
scripts with names have them from their names, and the others are numbered. -/
theorem keys_of_render (ctx : Context) (interactive : Bool) (resolution : Resolution)
    {a : Assembly} (hready : ∀ c ∈ a.containers, c.Ready a.groups) :
    ((∃ key, Composition.render ctx interactive resolution a = .error (.duplicateScript key)) ↔
      ∃ (i j : ℕ) (c c' : Container) (label : String), i < j ∧ a.containers[i]? = some c ∧
        a.containers[j]? = some c' ∧ c.persistScript = true ∧ c'.persistScript = true ∧
        c.script.name = some label ∧ c'.script.name = some label) ∧
    (∀ key, Composition.render ctx interactive resolution a = .error (.duplicateScript key) ↔
      ∃ before c after label, a.containers = before ++ c :: after ∧ c.persistScript = true ∧
        c.script.name = some label ∧ label ∈ before.filterMap Container.label? ∧
        (before.filterMap Container.label?).Nodup ∧ key = label ++ "-entrypoint") ∧
    (∀ composition, Composition.render ctx interactive resolution a = .ok composition →
      composition.containers.map ComposedContainer.spec = a.containers ∧
      (composition.containers.filterMap ComposedContainer.scriptKey?).Nodup ∧
      ∀ (i : ℕ) (k : ComposedContainer), composition.containers[i]? = some k →
        (k.spec.persistScript = false → k.scriptKey? = none) ∧
        (k.spec.persistScript = true → ∀ label, k.spec.script.name = some label →
          k.scriptKey? = some (label ++ "-entrypoint")) ∧
        (k.spec.persistScript = true → k.spec.script.name = none → k.scriptKey? =
          some ("entrypoint-" ++ ((a.containers.take i).countP Container.isNumbered).repr))) ∧
    ∀ (label : String) (n : ℕ), label ++ "-entrypoint" ≠ "entrypoint-" ++ n.repr := by
  refine ⟨?_, fun key => ?_, fun composition h => ?_, Composition.named_ne_numbered⟩
  · rw [Composition.exists_render_eq_duplicateScript_iff hready,
      Composition.not_nodup_labels_iff]
    simp only [Composition.label?_eq_some_iff, and_assoc, and_left_comm]
  · rw [Composition.render_eq_duplicateScript_iff,
      Composition.composeContainers_eq_duplicate_iff hready]
    simp only [Composition.label?_eq_some_iff, and_assoc, Error.duplicateScript.injEq]
  · refine ⟨Composition.specs_of_render h, Composition.nodup_scriptKeys_of_render h,
      fun i k hk => ?_⟩
    rw [Composition.scriptKey?_of_render h hk, Composition.keyOf?, Composition.scriptKey]
    refine ⟨fun hinline => ?_, fun hpersist label hname => ?_, fun hpersist hname => ?_⟩
    · rw [hinline]
      rfl
    · rw [if_pos hpersist, hname]
    · rw [if_pos hpersist, hname]

namespace Sample

/-- Persisted scripts with and without names, one of which looks like the key of a numbered script,
and a script that is passed to the shell under the name of another. -/
def keyed : Assembly := {
  groups := [{ name := "a", replicas := 1 }]
  containers := [
    { name := "c", jobGroup := "a", image := "i"
      script := { name := some "entrypoint-1", command := { invocation := "run" } } },
    { name := "d", jobGroup := "a", image := "i", script := { command := { invocation := "run" } } },
    { name := "e", jobGroup := "a", image := "i"
      script := { name := some "main", command := { invocation := "run" } }
      persistScript := false },
    { name := "f", jobGroup := "a", image := "i"
      script := { name := some "main", command := { invocation := "run" } } },
    { name := "g", jobGroup := "a", image := "i"
      script := { command := { invocation := "run" } } }] }

/-- One more persisted script under a name that is taken. -/
def rekeyed : Assembly :=
  { keyed with containers := keyed.containers ++ [
      { name := "h", jobGroup := "a", image := "i"
        script := { name := some "main", command := { invocation := "run" } } }] }

end Sample

/-- A script may be named like the key of a numbered one, and a script that is not persisted takes
no name away. -/
theorem keys_of_rekeyed :
    ((∀ c ∈ Sample.keyed.containers, c.Ready Sample.keyed.groups) ∧
      ∃ composition k, Composition.render (({} : Declaration).context "set" {}) false
          { metrics := [], addons := [] } Sample.keyed = .ok composition ∧
        composition.containers[4]? = some k ∧ k.scriptKey? = some "entrypoint-1") ∧
    (∀ c ∈ Sample.rekeyed.containers, c.Ready Sample.rekeyed.groups) ∧
      Composition.render (({} : Declaration).context "set" {}) false
        { metrics := [], addons := [] } Sample.rekeyed =
          .error (.duplicateScript "main-entrypoint") := by
  have hready : ∀ c ∈ Sample.keyed.containers, c.Ready Sample.keyed.groups := by
    unfold Container.Ready
    decide +kernel
  have hready' : ∀ c ∈ Sample.rekeyed.containers, c.Ready Sample.rekeyed.groups := by
    unfold Container.Ready
    decide +kernel
  refine ⟨⟨hready, ?_⟩, hready', ?_⟩
  · obtain ⟨composition, h⟩ : ∃ composition, Composition.render
        (({} : Declaration).context "set" {}) false { metrics := [], addons := [] }
        Sample.keyed = .ok composition := Success.exists_of_isOk (by decide +kernel)
    obtain ⟨hspecs, -, hkeys⟩ := (keys_of_render _ false _ hready).2.2.1 composition h
    have hlast := congrArg (fun specs => specs[4]?) hspecs
    rw [List.getElem?_map] at hlast
    obtain ⟨k, hk, hspec⟩ := Option.map_eq_some_iff.mp hlast
    refine ⟨composition, k, h, hk, ((hkeys 4 k hk).2.2 ?_ ?_).trans ?_⟩
    · rw [hspec]
    · rw [hspec]
    · decide +kernel
  · exact ((keys_of_render _ false _ hready').2.1 "main-entrypoint").mpr
      ⟨Sample.keyed.containers, _, [], "main", rfl, rfl, rfl, by decide, by decide, rfl⟩

end MeasuredJob
