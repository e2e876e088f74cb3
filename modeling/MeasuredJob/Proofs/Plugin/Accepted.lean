import MeasuredJob.Proofs.Plugin.Declared

/-!
# Accepted options

A plugin takes part in a composition only if it accepts its options.  Which fields its check has
looked at, and so what may be relied on afterwards, differs from plugin to plugin: all of them ask
for an image of their container except the one that samples processes.
-/

namespace MeasuredJob

/-! ## What the checks ask for -/

theorem OptionBag.textOr_eq_empty_iff {bag : OptionBag} {key default : String}
    (hdefault : default ≠ "") : bag.textOr key default = "" ↔ bag.text? key = some "" := by
  rw [textOr]
  cases bag.text? key with
  | none => simp [hdefault]
  | some text => simp

theorem Workload.validate_eq_none_iff {workload : Workload} {options : Options} :
    workload.validate options = none ↔ options.image ≠ "" := by
  rw [validate]
  by_cases himage : options.image = ""
  · simp [himage]
  · simp [himage]

theorem Companion.validate_eq_none_iff {options : Options} :
    validate options = none ↔
      options.image ≠ "" ∧ options.command ≠ "" ∧ options.name ≠ "" := by
  rw [validate]
  by_cases himage : options.image = ""
  · simp [himage]
  · rw [if_neg himage]
    by_cases hcommand : options.command = ""
    · simp [hcommand]
    · simp [himage, hcommand]

theorem Profiler.validate_eq_none_iff {options : Options} :
    validate options = none ↔ Text.blank options.events = false ∧ options.image ≠ "" ∧
      options.mount.toList.head? = some '/' := by
  rw [validate]
  by_cases hevents : Text.blank options.events = true
  · simp [hevents]
  · rw [if_neg hevents]
    by_cases himage : options.image = ""
    · simp [himage]
    · simp [hevents, himage]

/-- Options that could all be read are as the bag has them, the image included. -/
theorem Sampler.image_of_configure {bag : OptionBag} {start options : Options}
    (h : configure bag start = (options, none)) :
    options.image = bag.textOr "image" defaultImage := by
  rw [configure] at h
  cases hrate : bag.intOr identifier "rate" 10 with
  | error e => simp [hrate] at h
  | ok rate =>
    cases hcompletions : bag.intOr identifier "completions" 0 with
    | error e => simp [hrate, hcompletions] at h
    | ok completions =>
      simp only [hrate, hcompletions, Prod.mk.injEq, and_true] at h
      rw [← h]

end MeasuredJob
