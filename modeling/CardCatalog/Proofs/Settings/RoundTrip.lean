import CardCatalog.Settings
import CardCatalog.Proofs.Toml.Lines

/-!
# Settings read back

The file for the settings is read as it was written (`read_write`), whatever the settings and
whatever the name of the bound policy, which may be that of none. Its statements set the version
and, in their sections, the settings that are there (`statements?_write`); its tables are those that
the statements build (`toml_read_write`).
-/

namespace CardCatalog.Settings

open Toml

/-! ## What the file says -/

/-- What the line of a setting says, if there is one. -/
def lineStatements (name : Text) (value : Option Value) : List Statement :=
  value.toList.map (.assign [name])

/-- What the file for the settings says. -/
def statements (settings : Settings) : List Statement :=
  .assign ["version"] (.int settings.version) :: .header ["output"] ::
    (lineStatements "color" (settings.color.map .bool) ++
      (lineStatements "json" (settings.json.map .bool) ++
        (.header ["search"] :: lineStatements "numeric_bounds" (settings.bounds.map .text))))

/-- A setting as an entry of its section, if it is there. -/
def entry (name : Text) (value : Option Value) : Entries :=
  value.toList.map fun value => (name, value)

/-- The tables that the file for the settings holds. -/
def entries (settings : Settings) : Entries :=
  [("version", .int settings.version),
   ("output", .table .header
     (entry "color" (settings.color.map .bool) ++ entry "json" (settings.json.map .bool))),
   ("search", .table .header (entry "numeric_bounds" (settings.bounds.map .text)))]

/-- A line adds its setting to what the rest of the file says. -/
theorem reads_line {α : Type} {name rest : Text} {written : α → Text} {value : α → Value}
    {statements : List Statement} (hname : IsPlainKey name)
    (hread : ∀ a, ReadsValue (written a) (value a)) (setting : Option α)
    (h : Reads rest statements) :
    Reads (line name (setting.map written) ++ rest)
      (lineStatements name (setting.map value) ++ statements) := by
  cases setting with
  | none => exact h
  | some a => simpa [line, lineStatements] using h.assign hname (hread a)

theorem readsValue_boolWord (value : Bool) : ReadsValue (boolWord value) (.bool value) := by
  cases value <;> exact readsValue_word rfl (by decide) (by decide)

theorem statements?_write {settings : Settings} (hversion : settings.version = currentVersion) :
    statements? settings.write = some settings.statements := by
  -- from the last line to the first
  have hbounds := reads_line (by decide : IsPlainKey "numeric_bounds") readsValue_write
    settings.bounds reads_nil
  rw [List.append_nil, List.append_nil] at hbounds
  have hsearch := Reads.newline (by rintro c ⟨⟩; decide)
    (Reads.header (by decide : IsPlainKey "search") hbounds)
  have hjson := reads_line (by decide : IsPlainKey "json") readsValue_boolWord settings.json hsearch
  have hcolor :=
    reads_line (by decide : IsPlainKey "color") readsValue_boolWord settings.color hjson
  have houtput := Reads.newline (by rintro c ⟨⟩; decide)
    (Reads.header (by decide : IsPlainKey "output") hcolor)
  have hone : ReadsValue (Text.ofNat settings.version) (.int settings.version) := by
    rw [hversion]
    exact readsValue_word rfl (by decide) (by decide)
  have hwhole := houtput.assign (by decide : IsPlainKey "version") hone
  have hwrite : settings.write =
      "version".toList ++ " = " ++ Text.ofNat settings.version ++ '\n' ::
        '\n' :: ('[' :: "output" ++ [']'] ++ '\n' ::
          (line "color" (settings.color.map boolWord) ++
            (line "json" (settings.json.map boolWord) ++
              '\n' :: ('[' :: "search" ++ [']'] ++ '\n' ::
                line "numeric_bounds" (settings.bounds.map Quoted.write))))) := by
    simp [write, line]
  refine Reads.statements?_eq (by rintro ⟨⟩) ?_
  rw [hwrite]
  exact hwhole

/-! ## The settings in it -/

/-- The statements build the tables of the settings. -/
theorem toml_read_write {settings : Settings} (hversion : settings.version = currentVersion) :
    Toml.read settings.write = .ok settings.entries := by
  rw [Toml.read, statements?_write hversion]
  obtain ⟨version, color, json, bounds⟩ := settings
  cases color <;> cases json <;> cases bounds <;> rfl

theorem ofEntries_entries {settings : Settings} (hversion : settings.version = currentVersion) :
    ofEntries settings.entries = .ok settings := by
  have hread : version? settings.entries = .ok settings.version := by
    simp [version?, entries, hversion, currentVersion]
  rw [ofEntries, hread]
  obtain ⟨version, color, json, bounds⟩ := settings
  cases color <;> cases json <;> cases bounds <;> rfl

/-- **Settings are read as they were written.** -/
theorem read_write {settings : Settings} (hversion : settings.version = currentVersion) :
    read settings.write = .ok settings := by
  rw [read, toml_read_write hversion]
  exact ofEntries_entries hversion

end CardCatalog.Settings
