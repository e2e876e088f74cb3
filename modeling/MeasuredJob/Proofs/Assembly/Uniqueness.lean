import MeasuredJob.Proofs.Assembly.Steps

/-!
# The check of names

The check reads containers and then volumes from the front and stops at the first name that it has
already seen.  So it accepts distinct names and nothing else, and what it reports is the earliest
repetition, of a container before that of a volume.  Another order of the same containers and
volumes changes at most which repetition is the earliest: each of them is reported in some order.
-/

namespace MeasuredJob

/-- `x` is the earliest element of `xs` that has the key of an element before it. -/
def FirstRepeat {α β : Type} (key : α → β) (xs : List α) (x : α) : Prop :=
  ∃ front back, xs = front ++ x :: back ∧ (front.map key).Nodup ∧ key x ∈ front.map key

section

variable {α β : Type}

/-- Reading on after `front` is reading with its elements among those already seen. -/
theorem firstRepeatAfter_append [DecidableEq α] (seen front back : List α) :
    firstRepeatAfter seen (front ++ back) =
      (firstRepeatAfter seen front).or (firstRepeatAfter (front.reverse ++ seen) back) := by
  induction front generalizing seen with
  | nil => rfl
  | cons x front ih =>
    rw [List.cons_append, firstRepeatAfter, firstRepeatAfter]
    by_cases hx : x ∈ seen
    · rw [if_pos hx, if_pos hx, Option.some_or]
    · rw [if_neg hx, if_neg hx, ih, List.reverse_cons, List.append_assoc, List.singleton_append]

/-- A reported element is behind a front in which there was nothing to report. -/
theorem exists_append_of_firstRepeatAfter [DecidableEq α] {seen xs : List α} {x : α}
    (h : firstRepeatAfter seen xs = some x) : ∃ front back, xs = front ++ x :: back ∧
      firstRepeatAfter seen front = none ∧ x ∈ front.reverse ++ seen := by
  induction xs generalizing seen with
  | nil => cases h
  | cons y ys ih =>
    rw [firstRepeatAfter] at h
    by_cases hy : y ∈ seen
    · rw [if_pos hy, Option.some.injEq] at h
      exact ⟨[], ys, by rw [h, List.nil_append], rfl, h ▸ hy⟩
    · rw [if_neg hy] at h
      obtain ⟨front, back, rfl, hfront, hx⟩ := ih h
      refine ⟨y :: front, back, rfl, ?_, ?_⟩
      · rw [firstRepeatAfter, if_neg hy, hfront]
      · rwa [List.reverse_cons, List.append_assoc, List.singleton_append]

theorem firstRepeat?_eq_some_iff [DecidableEq α] {xs : List α} {x : α} :
    firstRepeat? xs = some x ↔
      ∃ front back, xs = front ++ x :: back ∧ front.Nodup ∧ x ∈ front := by
  have hnothing (front : List α) : firstRepeatAfter [] front = none ↔ front.Nodup :=
    firstRepeat?_eq_none_iff
  constructor
  · intro h
    obtain ⟨front, back, hxs, hfront, hx⟩ := exists_append_of_firstRepeatAfter h
    rw [List.append_nil, List.mem_reverse] at hx
    exact ⟨front, back, hxs, (hnothing front).mp hfront, hx⟩
  · rintro ⟨front, back, rfl, hfront, hx⟩
    have hseen : x ∈ front.reverse ++ [] :=
      List.mem_append_left _ (List.mem_reverse.mpr hx)
    rw [firstRepeat?, firstRepeatAfter_append, (hnothing front).mpr hfront, Option.none_or,
      firstRepeatAfter, if_pos hseen]

theorem firstRepeat?_map_eq_some_iff [DecidableEq β] {key : α → β} {xs : List α} {k : β} :
    firstRepeat? (xs.map key) = some k ↔ ∃ x, FirstRepeat key xs x ∧ key x = k := by
  rw [firstRepeat?_eq_some_iff]
  constructor
  · rintro ⟨front, back, hkeys, hfront, hk⟩
    obtain ⟨before, rest, rfl, rfl, hrest⟩ := List.map_eq_append_iff.mp hkeys
    obtain ⟨x, after, rfl, rfl, -⟩ := List.map_eq_cons_iff.mp hrest
    exact ⟨x, ⟨before, after, rfl, hfront, hk⟩, rfl⟩
  · rintro ⟨x, ⟨front, back, rfl, hfront, hk⟩, rfl⟩
    exact ⟨front.map key, back.map key, by rw [List.map_append, List.map_cons], hfront, hk⟩

theorem not_nodup_of_firstRepeat {key : α → β} {xs : List α} {x : α} (h : FirstRepeat key xs x) :
    ¬ (xs.map key).Nodup := by
  obtain ⟨front, back, rfl, -, hx⟩ := h
  rw [List.map_append, List.map_cons, List.nodup_append]
  exact fun hnodup => hnodup.2.2 (key x) hx (key x) List.mem_cons_self rfl

/-- Either no key comes twice or there is an earliest repetition. -/
theorem nodup_or_exists_firstRepeat (key : α → β) (xs : List α) :
    (xs.map key).Nodup ∨ ∃ x, FirstRepeat key xs x := by
  classical
  cases h : firstRepeat? (xs.map key) with
  | none => exact .inl (firstRepeat?_eq_none_iff.mp h)
  | some k =>
    obtain ⟨x, hx, -⟩ := firstRepeat?_map_eq_some_iff.mp h
    exact .inr ⟨x, hx⟩

/-- A key that comes twice is the earliest to be repeated when two of its elements are moved to the
front. -/
theorem exists_perm_firstRepeat [BEq β] [LawfulBEq β] {key : α → β} {xs : List α} {k : β}
    (h : 1 < (xs.map key).count k) : ∃ ys, ys.Perm xs ∧ ∃ y, FirstRepeat key ys y ∧ key y = k := by
  obtain ⟨x, hx, hkey⟩ := List.mem_map.mp (List.count_pos_iff.mp (Nat.lt_of_succ_lt h))
  obtain ⟨front, back, rfl⟩ := List.append_of_mem hx
  have hagain : k ∈ (front ++ back).map key := by
    rw [List.map_append, List.map_cons, List.count_append, hkey, List.count_cons_self] at h
    rw [List.map_append, ← List.count_pos_iff, List.count_append]
    omega
  obtain ⟨y, hy, hkey'⟩ := List.mem_map.mp hagain
  obtain ⟨front', back', hothers⟩ := List.append_of_mem hy
  have hmoved : (x :: y :: (front' ++ back')).Perm (front ++ x :: back) := by
    have hsecond : (y :: (front' ++ back')).Perm (front ++ back) :=
      hothers ▸ List.perm_middle.symm
    exact (hsecond.cons x).trans List.perm_middle.symm
  refine ⟨x :: y :: (front' ++ back'), hmoved, y, ⟨[x], front' ++ back', rfl, ?_, ?_⟩, hkey'⟩
  · exact List.pairwise_singleton _ _
  · rw [hkey', ← hkey]
    exact List.mem_singleton_self (key x)

end

namespace Assembly

/-- The error tells of the earliest repetition of a container, or else of that of a volume. -/
inductive NameClash (containers : List Container) (volumes : List Volume) : Error → Prop where
  | container {c : Container} (hc : FirstRepeat Container.key containers c) :
    NameClash containers volumes (.duplicateContainer c.jobGroup c.name)
  | volume {v : Volume} (hcontainers : (containers.map Container.key).Nodup)
    (hv : FirstRepeat Volume.name volumes v) : NameClash containers volumes (.duplicateVolume v.name)

theorem repeated?_eq_some_iff {containers : List Container} {volumes : List Volume} {e : Error} :
    repeated? containers volumes = some e ↔ NameClash containers volumes e := by
  rw [repeated?]
  cases hkey : firstRepeat? (containers.map Container.key) with
  | some key =>
    obtain ⟨c, hc, rfl⟩ := firstRepeat?_map_eq_some_iff.mp hkey
    constructor
    · intro h
      exact Option.some.inj h ▸ .container hc
    · intro h
      cases h with
      | @container c' hc' =>
        have hsame : c.key = c'.key :=
          Option.some.inj (hkey.symm.trans (firstRepeat?_map_eq_some_iff.mpr ⟨c', hc', rfl⟩))
        rw [hsame, Container.key]
      | volume hnodup => exact absurd hnodup (not_nodup_of_firstRepeat hc)
  | none =>
    have hnodup := firstRepeat?_eq_none_iff.mp hkey
    rw [Option.map_eq_some_iff]
    constructor
    · rintro ⟨name, hname, rfl⟩
      obtain ⟨v, hv, rfl⟩ := firstRepeat?_map_eq_some_iff.mp hname
      exact .volume hnodup hv
    · intro h
      cases h with
      | container hc => exact absurd hnodup (not_nodup_of_firstRepeat hc)
      | @volume v _ hv => exact ⟨v.name, firstRepeat?_map_eq_some_iff.mpr ⟨v, hv, rfl⟩, rfl⟩

/-- What the check of names came to, apart from the name that it reported. -/
inductive SameVerdict : Except Error Unit → Except Error Unit → Prop where
  | distinct : SameVerdict (.ok ()) (.ok ())
  | container (jobGroup name jobGroup' name' : String) :
    SameVerdict (.error (.duplicateContainer jobGroup name))
      (.error (.duplicateContainer jobGroup' name'))
  | volume (name name' : String) :
    SameVerdict (.error (.duplicateVolume name)) (.error (.duplicateVolume name'))

/-- How the check of names judges containers and volumes. -/
structure Judged (a : Assembly) : Prop where
  accepts : a.checkUnique = .ok () ↔
    (a.containers.map Container.key).Nodup ∧ (a.volumes.map Volume.name).Nodup
  refuses : ∀ e, a.checkUnique = .error e ↔ NameClash a.containers a.volumes e
  reordered : ∀ b : Assembly, b.containers.Perm a.containers → b.volumes.Perm a.volumes →
    SameVerdict b.checkUnique a.checkUnique
  /-- Every container that is repeated is reported in some order. -/
  containers_reported : ∀ jobGroup name,
    1 < (a.containers.map Container.key).count (jobGroup, name) →
      ∃ b : Assembly, b.containers.Perm a.containers ∧ b.volumes = a.volumes ∧
        b.checkUnique = .error (.duplicateContainer jobGroup name)
  /-- Where no container is repeated, every volume that is repeated is reported in some order. -/
  volumes_reported : (a.containers.map Container.key).Nodup → ∀ name,
    1 < (a.volumes.map Volume.name).count name →
      ∃ b : Assembly, b.containers = a.containers ∧ b.volumes.Perm a.volumes ∧
        b.checkUnique = .error (.duplicateVolume name)

theorem checkUnique_eq_error_iff {a : Assembly} {e : Error} :
    a.checkUnique = .error e ↔ NameClash a.containers a.volumes e := by
  rw [checkUnique, Error.check_eq_error_iff, repeated?_eq_some_iff]

/-- Whether names are repeated does not depend on their order, and neither does it whether they are
names of containers. -/
theorem sameVerdict_of_perm {a b : Assembly} (hcontainers : b.containers.Perm a.containers)
    (hvolumes : b.volumes.Perm a.volumes) : SameVerdict b.checkUnique a.checkUnique := by
  have hkeys := (hcontainers.map Container.key).nodup_iff
  have hnames := (hvolumes.map Volume.name).nodup_iff
  rcases nodup_or_exists_firstRepeat Container.key a.containers with hcs | ⟨c, hc⟩
  · rcases nodup_or_exists_firstRepeat Volume.name a.volumes with hvs | ⟨v, hv⟩
    · rw [checkUnique_eq_ok_iff.mpr ⟨hcs, hvs⟩,
        checkUnique_eq_ok_iff.mpr ⟨hkeys.mpr hcs, hnames.mpr hvs⟩]
      exact .distinct
    · obtain ⟨v', hv'⟩ := (nodup_or_exists_firstRepeat Volume.name b.volumes).resolve_left
        (mt hnames.mp (not_nodup_of_firstRepeat hv))
      rw [checkUnique_eq_error_iff.mpr (.volume hcs hv),
        checkUnique_eq_error_iff.mpr (.volume (hkeys.mpr hcs) hv')]
      exact .volume v'.name v.name
  · obtain ⟨c', hc'⟩ := (nodup_or_exists_firstRepeat Container.key b.containers).resolve_left
      (mt hkeys.mp (not_nodup_of_firstRepeat hc))
    rw [checkUnique_eq_error_iff.mpr (.container hc), checkUnique_eq_error_iff.mpr (.container hc')]
    exact .container c'.jobGroup c'.name c.jobGroup c.name

/-- The check of names accepts just the containers and volumes whose names are distinct, and of the
others it reports the earliest repetition. -/
theorem judged_by_names (a : Assembly) : a.Judged where
  accepts := checkUnique_eq_ok_iff
  refuses _ := checkUnique_eq_error_iff
  reordered _ := sameVerdict_of_perm
  containers_reported jobGroup name h := by
    obtain ⟨containers, hperm, c, hc, hkey⟩ := exists_perm_firstRepeat h
    obtain ⟨rfl, rfl⟩ := Prod.mk.inj hkey
    exact ⟨{ a with containers }, hperm, rfl, checkUnique_eq_error_iff.mpr (.container hc)⟩
  volumes_reported hnodup name h := by
    obtain ⟨volumes, hperm, v, hv, rfl⟩ := exists_perm_firstRepeat h
    exact ⟨{ a with volumes }, rfl, hperm, checkUnique_eq_error_iff.mpr (.volume hnodup hv)⟩

end Assembly
end MeasuredJob
