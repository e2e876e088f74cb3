import MeasuredJob.Plugin.Sampler
import MeasuredJob.Proofs.Options.ReadBack
import MeasuredJob.Proofs.Text.Numeral

/-!
# Integer options

An integer option may be given as text.  It reads as an integer exactly if the text is a numeral of
one that fits 32 bits, with any white space around it, and otherwise the error names the plugin and
the option.  So it makes no difference whether an integer is given as a number or as its numeral.
-/

namespace MeasuredJob
namespace OptionBag

/-- What reading the text `s` as an integer option results in.  There is no way out but the integer
that the trimmed text spells and the error. -/
structure ReadsInteger (plugin key s : String) (result : Except Error Int32) : Prop where
  succeeds_iff : (∃ v, result = .ok v) ↔
    ∃ i, Text.Spells (Text.trim s).toList i ∧ -2147483648 ≤ i ∧ i ≤ 2147483647
  ok_iff : ∀ v, result = .ok v ↔ Text.Spells (Text.trim s).toList v.toInt
  error_eq : ∀ e, result = .error e →
    e = .invalidOption plugin key ("'" ++ s ++ "' is not an integer")

variable {bag : OptionBag} {key s : String}

theorem intOr_of_text (h : bag.options.get? key = some (.text s)) (plugin : String)
    (default : Int32) :
    bag.intOr plugin key default = (Text.int32? (Text.trim s).toList).elim
      (.error (.invalidOption plugin key ("'" ++ s ++ "' is not an integer"))) .ok := by
  rw [intOr, h, Text.toList_trim]
  dsimp only
  cases Text.int32? (Text.strip Text.isBlank s.toList) <;> rfl

theorem intOr_eq_ok_iff (h : bag.options.get? key = some (.text s)) {plugin : String}
    {default v : Int32} :
    bag.intOr plugin key default = .ok v ↔ Text.Spells (Text.trim s).toList v.toInt := by
  rw [intOr_of_text h, ← Text.int32?_eq_some_iff]
  cases Text.int32? (Text.trim s).toList <;> simp

theorem readsInteger_intOr (h : bag.options.get? key = some (.text s)) (plugin : String)
    (default : Int32) : ReadsInteger plugin key s (bag.intOr plugin key default) where
  ok_iff _ := intOr_eq_ok_iff h
  succeeds_iff := by
    simp only [intOr_eq_ok_iff h, ← Text.exists_toInt_eq_iff]
    constructor
    · rintro ⟨v, hv⟩
      exact ⟨_, hv, v, rfl⟩
    · rintro ⟨_, hv, v, rfl⟩
      exact ⟨v, hv⟩
  error_eq e he := by
    rw [intOr_of_text h] at he
    cases hread : Text.int32? (Text.trim s).toList with
    | some v =>
      rw [hread] at he
      cases he
    | none =>
      rw [hread] at he
      cases he
      rfl

/-- A numeral reads as its integer, whatever white space stands around it. -/
theorem intOr_of_numeral {v : Int32} {front back : String} (hfront : Text.blank front = true)
    (hback : Text.blank back = true)
    (h : bag.options.get? key = some (.text (front ++ Text.ofInt32 v ++ back))) (plugin : String)
    (default : Int32) : bag.intOr plugin key default = .ok v := by
  have hspells := Text.spells_ofInt32 v
  rw [intOr_eq_ok_iff h, hspells.trim_eq hfront hback]
  exact hspells

end OptionBag

/-- The sampler takes an integer in either form to the same options. -/
theorem Sampler.configure_setText_numeral {v : Int32} {front back : String}
    (hfront : Text.blank front = true) (hback : Text.blank back = true) (bag : OptionBag)
    (state : Options) {key : String} (hkey : key ∈ ["rate", "completions"]) :
    configure (bag.setText key (front ++ Text.ofInt32 v ++ back)) state =
      configure (bag.setInt key v) state := by
  have hread : ∀ default,
      (bag.setText key (front ++ Text.ofInt32 v ++ back)).intOr identifier key default = .ok v :=
    OptionBag.intOr_of_numeral hfront hback ((Table.get?_insert ..).trans (if_pos rfl)) _
  simp only [List.mem_cons, List.not_mem_nil, or_false] at hkey
  rcases hkey with rfl | rfl
  all_goals
    simp [configure, hread, OptionBag.intOr_setText_of_ne]

/-- Reading an integer option of any plugin under any key.  A text is taken exactly if it is a
numeral that fits, and an integer is taken alike in both forms, as the options of the sampler show
that are integers. -/
theorem OptionBag.integers_read (plugin key : String) (default : Int32) :
    (∀ (bag : OptionBag) (s : String), bag.options.get? key = some (.text s) →
      ReadsInteger plugin key s (bag.intOr plugin key default)) ∧
    ∀ (v : Int32) (front back : String), Text.blank front = true → Text.blank back = true →
      (∀ (bag : OptionBag) (value : OptionValue), bag.options.get? key = some value →
        value = .int v ∨ value = .text (front ++ Text.ofInt32 v ++ back) →
        bag.intOr plugin key default = .ok v) ∧
      ∀ (bag : OptionBag) (state : Sampler.Options), ∀ option ∈ ["rate", "completions"],
        Sampler.configure (bag.setText option (front ++ Text.ofInt32 v ++ back)) state =
          Sampler.configure (bag.setInt option v) state := by
  refine ⟨fun bag s h => readsInteger_intOr h plugin default, fun v front back hfront hback =>
    ⟨?_, fun bag state option hoption =>
      Sampler.configure_setText_numeral hfront hback bag state hoption⟩⟩
  rintro bag value h (rfl | rfl)
  · rw [intOr, h]
  · exact intOr_of_numeral hfront hback h plugin default

/-- Zeros in front of a digit and white space that is not ASCII, the least integer in both forms,
and the first one that does not fit. -/
theorem OptionBag.integers_read_of_extremes :
    ReadsInteger "perf-sysstat" "rate" "\u2003+0007\t"
        ((empty.setText "rate" "\u2003+0007\t").intOr "perf-sysstat" "rate" 10) ∧
      (empty.setText "rate" "\u2003+0007\t").intOr "perf-sysstat" "rate" 10 = .ok 7 ∧
      Text.ofInt32 (-2147483648) = "-2147483648" ∧
      Sampler.configure (empty.setText "rate" (" " ++ Text.ofInt32 (-2147483648) ++ "\n")) {} =
        Sampler.configure (empty.setInt "rate" (-2147483648)) {} ∧
      (empty.setText "rate" "2147483648").intOr "perf-sysstat" "rate" 10 =
        .error (.invalidOption "perf-sysstat" "rate" "'2147483648' is not an integer") := by
  obtain ⟨hreads, hforms⟩ := integers_read "perf-sysstat" "rate" 10
  refine ⟨hreads _ _ (by decide +kernel), by decide +kernel, by decide +kernel, ?_,
    by decide +kernel⟩
  exact (hforms (-2147483648) " " "\n" (by decide +kernel) (by decide +kernel)).2 empty {} "rate"
    (by decide)

end MeasuredJob
