import MeasuredJob.CommandLine.Run
import MeasuredJob.Proofs.CommandLine.TextTable
import MeasuredJob.Proofs.Registry.Registration
import MeasuredJob.Proofs.Table
import MeasuredJob.Proofs.Text.ByteOrder
import MeasuredJob.Proofs.Text.Trimming

/-!
# Lists of plugins

A registry is read in several ways: by an identifier, as a list of identifiers or descriptors, and
as what the program prints.  All of them see the same plugins in the same order, whatever was
registered before.
-/

namespace MeasuredJob

/-! ## Printed tables -/

namespace CommandLine

/-- What a table says about plugins: below its headers a row for each plugin, with the identifier,
the kind, the family and the summary. -/
def pluginTable (plugins : List AnyPlugin) : List (List String) :=
  ["NAME", "KIND", "FAMILY", "SUMMARY"] :: plugins.map fun plugin =>
    [plugin.identifier, plugin.kind.name, plugin.descriptor.family.name,
      Text.trim plugin.descriptor.summary]

/-- The text shows these plugins in this order, and nothing else. -/
structure Tabulates (plugins : List AnyPlugin) (text : String) : Prop where
  written : TextTable.Prints (pluginTable plugins) text
  /-- Each plugin has one line, unless its own texts have line breaks. -/
  aligned : (∀ plugin ∈ plugins, TextTable.Plain plugin.identifier ∧
      '\n' ∉ (Text.trim plugin.descriptor.summary).toList) →
    TextTable.Tabular (pluginTable plugins) text

theorem plain_tableRow {plugin : AnyPlugin} (hidentifier : TextTable.Plain plugin.identifier)
    (hsummary : '\n' ∉ (Text.trim plugin.descriptor.summary).toList) :
    ∀ cell ∈ tableRow plugin, TextTable.Plain cell := by
  have hkind : ∀ kind : PluginKind, TextTable.Plain kind.name := by
    intro kind
    cases kind <;> decide +kernel
  have hfamily : ∀ family : Family, TextTable.Plain family.name := by
    intro family
    cases family <;> decide +kernel
  simp only [tableRow, List.forall_mem_cons]
  exact ⟨hidentifier, hkind _, hfamily _, ⟨hsummary, Text.trim_trim _⟩,
    fun cell hcell => absurd hcell List.not_mem_nil⟩

theorem tabulates_listTable (registry : Registry) (family : Option Family) :
    Tabulates (registry.ofFamily family) (listTable registry family) := by
  have hlength : ∀ cells ∈ (registry.ofFamily family).map tableRow, cells.length ≤ 4 := by
    intro cells hcells
    obtain ⟨plugin, -, rfl⟩ := List.mem_map.mp hcells
    exact Nat.le_refl 4
  have hheaders : ∀ cell ∈ ["NAME", "KIND", "FAMILY", "SUMMARY"], TextTable.Plain cell := by
    decide +kernel
  refine ⟨TextTable.prints_format hlength, fun hplain => TextTable.tabular_format hlength ?_⟩
  rw [List.forall_mem_cons, List.forall_mem_map]
  exact ⟨hheaders, fun plugin hplugin =>
    plain_tableRow (hplain plugin hplugin).1 (hplain plugin hplugin).2⟩

end CommandLine

/-! ## Ways to read a registry -/

namespace Registry

variable {registry : Registry}

theorem list_none_eq_keys (registry : Registry) : registry.list none = registry.plugins.keys := by
  rw [list, ofFamily, List.filter_true, Table.values, List.map_map, Table.keys]
  exact List.map_congr_left fun e he => (registry.keyed e he).symm

theorem list_none_eq_descriptors (registry : Registry) :
    registry.list none = registry.descriptors.map Descriptor.identifier := by
  rw [list, ofFamily, List.filter_true, descriptors, List.map_map]
  rfl

theorem list_some_eq (registry : Registry) (family : Family) :
    registry.list (some family) =
      (registry.descriptors.filter (·.family == family)).map Descriptor.identifier := by
  rw [list, ofFamily, descriptors, List.filter_map, List.map_map]
  rfl

theorem ascending_list (registry : Registry) :
    (registry.list none).Pairwise fun a b => Text.bytes a < Text.bytes b := by
  rw [list_none_eq_keys]
  exact registry.plugins.sorted_keys.imp Text.bytes_lt_iff.mpr

theorem contains_iff_mem_list {identifier : String} :
    registry.contains identifier = true ↔ identifier ∈ registry.list none := by
  rw [list_none_eq_keys, contains, Table.contains_iff_mem_keys]

theorem resolve_eq_ok_iff {identifier : String} {plugin : AnyPlugin} :
    registry.resolve identifier = .ok plugin ↔ registry.lookup identifier = some plugin := by
  rw [resolve]
  split <;> rename_i hlookup <;> simp [hlookup]

theorem size_eq_length_list (registry : Registry) :
    registry.size = (registry.list none).length := by
  rw [list_none_eq_keys, Table.keys, List.length_map]
  rfl

theorem lookup_of_mem {plugin : AnyPlugin} (h : plugin ∈ registry.plugins.values) :
    registry.lookup plugin.identifier = some plugin := by
  obtain ⟨e, he, rfl⟩ := List.mem_map.mp h
  rw [lookup, ← registry.keyed e he]
  exact Table.get?_eq_some_iff.mpr he

theorem lookup_of_mem_ofFamily {family : Option Family} {plugin : AnyPlugin}
    (h : plugin ∈ registry.ofFamily family) : registry.lookup plugin.identifier = some plugin :=
  lookup_of_mem (List.mem_of_mem_filter h)

/-- The ways to read a registry agree. -/
structure Coherent (registry : Registry) : Prop where
  /-- Identifiers are listed in the order of their bytes, each of them once. -/
  ascending : (registry.list none).Pairwise fun a b => Text.bytes a < Text.bytes b
  contained : ∀ identifier, registry.contains identifier = true ↔ identifier ∈ registry.list none
  found : ∀ identifier,
    (registry.lookup identifier).isSome = true ↔ identifier ∈ registry.list none
  resolved : ∀ identifier,
    (∃ plugin, registry.resolve identifier = .ok plugin) ↔ identifier ∈ registry.list none
  sized : registry.size = (registry.list none).length
  described : registry.list none = registry.descriptors.map Descriptor.identifier
  /-- Each descriptor is that of the plugin that is found under its identifier. -/
  matched : ∀ descriptor ∈ registry.descriptors,
    (registry.lookup descriptor.identifier).map AnyPlugin.descriptor = some descriptor
  filtered : ∀ family, registry.list (some family) =
    (registry.descriptors.filter (·.family == family)).map Descriptor.identifier
  /-- Both forms in which the program prints a list are about the same plugins in one order. -/
  printed : ∀ read family, ∃ plugins table,
    List.Forall₂ (fun identifier plugin => registry.lookup identifier = some plugin)
      (registry.list family) plugins ∧
    plugins.map AnyPlugin.identifier = registry.list family ∧
    CommandLine.run registry read (.list family true) =
      .ok (.text (String.join (plugins.map fun plugin => plugin.identifier ++ "\n"))) ∧
    CommandLine.run registry read (.list family false) = .ok (.text table) ∧
    CommandLine.Tabulates plugins table

theorem coherent (registry : Registry) : registry.Coherent where
  ascending := registry.ascending_list
  contained _ := contains_iff_mem_list
  found _ := contains_iff_mem_list
  resolved identifier := by
    simp only [resolve_eq_ok_iff, ← contains_eq_true_iff, contains_iff_mem_list]
  sized := registry.size_eq_length_list
  described := registry.list_none_eq_descriptors
  filtered := registry.list_some_eq
  matched descriptor hdescriptor := by
    obtain ⟨plugin, hplugin, rfl⟩ := List.mem_map.mp hdescriptor
    exact congrArg (Option.map AnyPlugin.descriptor) (lookup_of_mem hplugin)
  printed read family := by
    refine ⟨registry.ofFamily family, _, ?_, rfl, ?_, rfl,
      CommandLine.tabulates_listTable registry family⟩
    · rw [list, List.forall₂_map_left_iff, List.forall₂_same]
      exact fun plugin => lookup_of_mem_ofFamily
    · rw [CommandLine.run, if_pos rfl, CommandLine.listQuietly, list, List.map_map]
      rfl

/-! ## Registries and what was registered -/

/-- What calls one after another make of a registry in which `known` were registered before. -/
structure Records (start : Registry) (known calls : List AnyPlugin) : Prop where
  /-- A call fails just when its identifier is taken. -/
  refuses : ∀ n plugin, calls[n]? = some plugin → ∀ error,
    (start.after calls n).register plugin = .error error ↔
      error = .duplicatePlugin plugin.identifier ∧
        ((∃ earlier ∈ known, earlier.identifier = plugin.identifier) ∨
          ∃ m < n, start.Accepts calls m plugin.identifier)
  unchanged : ∀ n plugin error, calls[n]? = some plugin →
    (start.after calls n).register plugin = .error error →
      start.after calls (n + 1) = start.after calls n
  /-- An identifier stands for the first plugin that was registered with it. -/
  finds : ∀ identifier, (Builtin.extend start calls).lookup identifier =
    (known ++ calls).find? (·.identifier == identifier)
  resolves : ∀ identifier plugin, (Builtin.extend start calls).resolve identifier = .ok plugin ↔
    (known ++ calls).find? (·.identifier == identifier) = some plugin
  lists : ∀ identifier, identifier ∈ (Builtin.extend start calls).list none ↔
    ∃ plugin ∈ known ++ calls, plugin.identifier = identifier
  coherent : (Builtin.extend start calls).Coherent

theorem records_of_lookup {start : Registry} {known : List AnyPlugin}
    (hstart : ∀ identifier, start.lookup identifier = known.find? (·.identifier == identifier))
    (calls : List AnyPlugin) : start.Records known calls := by
  have hfinds (identifier : String) : (Builtin.extend start calls).lookup identifier =
      (known ++ calls).find? (·.identifier == identifier) := by
    rw [lookup_extend, hstart, List.find?_append]
  have htaken (identifier : String) : start.contains identifier = true ↔
      ∃ earlier ∈ known, earlier.identifier = identifier := by
    rw [contains, Table.contains, ← lookup, hstart, List.find?_isSome]
    simp only [beq_iff_eq]
  refine {
    refuses := fun n plugin _ error => ?_
    unchanged := fun n plugin error => after_succ_of_error
    finds := hfinds
    resolves := fun identifier plugin => by rw [resolve_eq_ok_iff, hfinds]
    lists := fun identifier => ?_
    coherent := coherent _ }
  · rw [register_eq_error_iff, contains_after_iff, htaken, and_comm]
  · rw [← contains_iff_mem_list, contains, Table.contains, ← lookup, hfinds, List.find?_isSome]
    simp only [beq_iff_eq]

/-- However plugins are registered, from nothing or after the plugins of the library, the first one
of an identifier stays and everything that reads the registry sees it. -/
theorem records (calls : List AnyPlugin) :
    Registry.empty.Records [] calls ∧ Builtin.registry.Records Builtin.plugins calls := by
  constructor
  · exact records_of_lookup (fun _ => rfl) calls
  · refine records_of_lookup (fun identifier => ?_) calls
    exact (lookup_extend Registry.empty Builtin.plugins identifier).trans Option.none_or

end Registry
end MeasuredJob
