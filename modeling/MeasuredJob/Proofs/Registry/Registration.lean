import MeasuredJob.Proofs.Plugin.Registered

/-!
# Registration

Plugins are registered one after another.  A call is refused when its identifier is taken, and
then nothing changes, so what a registry finds under an identifier is the first plugin of that
identifier that it was ever offered.  Each law is proved for one call and then for the calls
together.
-/

namespace MeasuredJob
namespace Registry

variable {registry start : Registry} {plugin : AnyPlugin} {identifier : String}
  {calls : List AnyPlugin} {n : ℕ}

/-! ## One call -/

theorem contains_register {extended : Registry} (h : registry.register plugin = .ok extended) :
    extended.contains identifier = true ↔
      registry.contains identifier = true ∨ plugin.identifier = identifier := by
  change (extended.lookup identifier).isSome = true ↔ (registry.lookup identifier).isSome = true ∨ _
  rw [lookup_register h, Option.isSome_or, Bool.or_eq_true]
  refine or_congr_right ?_
  split <;> simp [*]

/-! ## Calls one after another -/

/-- The registry after the first `n` calls. -/
def after (start : Registry) (calls : List AnyPlugin) (n : ℕ) : Registry :=
  Builtin.extend start (calls.take n)

/-- The call at place `n` registers a plugin of that identifier. -/
def Accepts (start : Registry) (calls : List AnyPlugin) (n : ℕ) (identifier : String) : Prop :=
  ∃ plugin extended, calls[n]? = some plugin ∧ plugin.identifier = identifier ∧
    (start.after calls n).register plugin = .ok extended

theorem after_succ (hcall : calls[n]? = some plugin) :
    start.after calls (n + 1) =
      match (start.after calls n).register plugin with
      | .ok extended => extended
      | .error _ => start.after calls n := by
  rw [after, List.take_add_one, hcall, Option.toList_some, Builtin.extend, List.foldl_append]
  rfl

theorem after_succ_of_error {error : Error} (hcall : calls[n]? = some plugin)
    (herror : (start.after calls n).register plugin = .error error) :
    start.after calls (n + 1) = start.after calls n := by
  rw [after_succ hcall, herror]

/-- What one call takes: the identifier of its plugin, if it is accepted. -/
theorem contains_after_succ :
    (start.after calls (n + 1)).contains identifier = true ↔
      (start.after calls n).contains identifier = true ∨ start.Accepts calls n identifier := by
  cases hcall : calls[n]? with
  | none =>
    have hsame : start.after calls (n + 1) = start.after calls n := by
      rw [after, after, List.take_add_one, hcall, Option.toList_none, List.append_nil]
    have hnone : ¬start.Accepts calls n identifier := by
      rintro ⟨plugin, -, hplugin, -, -⟩
      cases hcall.symm.trans hplugin
    rw [hsame, or_iff_left hnone]
  | some plugin =>
    cases hregister : (start.after calls n).register plugin with
    | error error =>
      have hnone : ¬start.Accepts calls n identifier := by
        rintro ⟨plugin', extended, hplugin, -, hok⟩
        cases hcall.symm.trans hplugin
        cases hregister.symm.trans hok
      rw [after_succ_of_error hcall hregister, or_iff_left hnone]
    | ok extended =>
      have haccepts : start.Accepts calls n identifier ↔ plugin.identifier = identifier := by
        constructor
        · rintro ⟨plugin', -, hplugin, hid, -⟩
          cases hcall.symm.trans hplugin
          exact hid
        · exact fun hid => ⟨plugin, extended, hcall, hid, hregister⟩
      rw [after_succ hcall, hregister, contains_register hregister, haccepts]

/-- An identifier is taken at the start or by a call that was accepted. -/
theorem contains_after_iff :
    (start.after calls n).contains identifier = true ↔
      start.contains identifier = true ∨ ∃ m < n, start.Accepts calls m identifier := by
  induction n with
  | zero => simp [after, Builtin.extend]
  | succ n ih =>
    rw [contains_after_succ, ih, or_assoc]
    simp only [Nat.lt_succ_iff_lt_or_eq, or_and_right, exists_or, exists_eq_left]

end Registry
end MeasuredJob
