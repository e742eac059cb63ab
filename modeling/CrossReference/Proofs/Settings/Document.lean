import CrossReference.Proofs.Toml.Documents
import CrossReference.Toml.Forms

set_option autoImplicit false

/-!
# Settings as a document

The document of settings gives the same settings, and only a width beyond the range of signed
numbers keeps settings from having one.
-/
namespace CrossReference

theorem LabelMode.ofName?_name (mode : LabelMode) : ofName? mode.name = some mode := by
  cases mode <;> rfl

theorem Toml.naturalBelow?_natCast {bound n : Nat} (h : n < bound) :
    (Toml.integer n).naturalBelow? bound = some n :=
  if_pos ⟨Int.natCast_nonneg n, Int.ofNat_lt.mpr h⟩

def Toml.ofSettings (table : List (String × Toml.Setting)) : Toml :=
  .table (table.map fun pair => (pair.1, pair.2.toToml))

namespace Settings

variable {s : Settings} {text : String}

theorem plain_tables (s : Settings) : Toml.Plain s.tables := by
  constructor
  · simp [tables]
  · simp [tables]
  · simp only [tables, List.forall_mem_cons, List.not_mem_nil, false_imp_iff, implies_true,
      and_true]
    decide +kernel

theorem analysisSettings_ofToml? (a : AnalysisSettings) : AnalysisSettings.ofToml? (Toml.ofSettings
    [("strict", .flag a.strict), ("label", .text a.label.name),
      ("excerpt_width", .number a.excerptWidth.toNat)]) = some a := by
  have width := Toml.naturalBelow?_natCast a.excerptWidth.toNat_lt_size
  simp only [AnalysisSettings.ofToml?, Toml.ofSettings, Toml.fields?, List.map_cons, List.map_nil,
    Toml.Setting.toToml]
  simp [List.lookup_cons, Toml.optional, Toml.bool?, Toml.choice?, LabelMode.ofName?_name, width]

theorem palette_ofToml? (p : Palette) : Palette.ofToml? (Toml.ofSettings
    [("reference", .text p.reference), ("call_callee", .text p.callCallee),
      ("call_argument_binding", .text p.callArgumentBinding),
      ("value_assignment", .text p.valueAssignment),
      ("return_argument", .text p.returnArgument)]) = some p := by
  simp only [Palette.ofToml?, Toml.ofSettings, Toml.fields?, List.map_cons, List.map_nil,
    Toml.Setting.toToml]
  simp [List.lookup_cons, Toml.optional, Toml.text?]

theorem port_ofToml? (fallback port : UInt16) :
    Toml.optional fallback (fun v => (v.naturalBelow? UInt16.size).map UInt16.ofNat)
      (some (.integer port.toNat)) = some port := by
  rw [Toml.optional, Toml.naturalBelow?_natCast port.toNat_lt_size, Option.map_some,
    UInt16.ofNat_toNat]

theorem serverSettings_ofToml? (server : ServerSettings) : ServerSettings.ofToml? (Toml.ofSettings
    [("port", .number server.port.toNat)]) = some server := by
  have fields : (Toml.ofSettings [("port", .number server.port.toNat)]).fields? ["port"] =
      some [some (.integer server.port.toNat)] := rfl
  rw [ServerSettings.ofToml?, fields, Option.bind_eq_bind, Option.bind_some, List.getD_cons_zero]
  dsimp only
  rw [port_ofToml?]
  rfl

theorem ofToml?_tables (s : Settings) :
    ofToml? (.table (s.tables.map fun t => (t.1, .ofSettings t.2))) = some s := by
  simp only [tables, List.map_cons, List.map_nil, ofToml?, Toml.fields?]
  simp [List.lookup_cons, Toml.optional, analysisSettings_ofToml?, palette_ofToml?,
    serverSettings_ofToml?]

theorem parse?_of_write? (h : s.write? = some text) : parse? text = some s := by
  obtain ⟨cs, written, rfl⟩ := Option.map_eq_some_iff.mp h
  rw [parse?, Toml.parse?_of_writeTables? s.plain_tables written, Option.bind_some]
  exact s.ofToml?_tables

theorem write?_eq_none_iff :
    s.write? = none ↔ Toml.integerBound ≤ s.analysis.excerptWidth.toNat := by
  have port : ¬Toml.integerBound ≤ s.server.port.toNat :=
    Nat.not_le.mpr (Nat.lt_trans s.server.port.toNat_lt_size (by decide))
  simp only [write?, Option.map_eq_none_iff, Toml.writeTables?_eq_none_iff,
    Toml.Setting.write?_eq_none_iff, tables]
  simp [port]

end Settings
end CrossReference
