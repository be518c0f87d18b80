/-
Module: NamedRefs.Proofs.Config.OfToml
Purpose: The lines that give some of the settings of a configuration are read as these settings, and
  no document gives settings under which a name has no bucket, whichever reader of documents is used.
Main exports: StoreConfig.Setting, StoreConfig.Storable, StoreConfig.plainPairs,
  StoreConfig.restrictedTo, StoreConfig.ofToml_chosen, StoreConfig.ofToml_of_repetition,
  StoreConfig.storable_of_ofToml, StoreConfig.settings_from_lines
-/
import Mathlib.Data.List.Nodup
import NamedRefs.Config.OfToml
import NamedRefs.Proofs.Toml.Standard
import NamedRefs.RefName.Hash

namespace NamedRefs.StoreConfig

/-!
A configuration can be written down in part: one line for each setting that is chosen.  As the keys
are bare and the values plain, every standard reader takes such a document for these pairs, in whatever
order the lines come, and a setting without a line keeps its default.  Of any other text nothing is known
but that it was read; then its numbers are integers of a document, and the number of buckets is not zero
besides.
-/

/-- The settings that a document can give. -/
inductive Setting where
  | initialCapacity
  | validateNames
  | statsBuckets
deriving DecidableEq, Repr

/-- The numbers of a configuration are integers that a document may hold. -/
structure Storable (config : StoreConfig) : Prop where
  initialCapacity : config.initialCapacity.toNat < 2 ^ 63
  statsBuckets : config.statsBuckets.toNat < 2 ^ 63

namespace Setting

/-- The key of a setting. -/
def key : Setting → String
  | initialCapacity => "initial_capacity"
  | validateNames => "validate_names"
  | statsBuckets => "stats_buckets"

/-- What a configuration has for a setting, as it is written. -/
def written (config : StoreConfig) : Setting → String
  | initialCapacity => toString config.initialCapacity
  | validateNames => toString config.validateNames
  | statsBuckets => toString config.statsBuckets

/-- The line that gives a setting as a configuration has it. -/
def line (config : StoreConfig) (setting : Setting) : String :=
  setting.key ++ " = " ++ setting.written config

/-- What a configuration has for a setting, as a value of a document. -/
def value (config : StoreConfig) : Setting → Toml.Value
  | initialCapacity => .integer config.initialCapacity.toNat
  | validateNames => .boolean config.validateNames
  | statsBuckets => .integer config.statsBuckets.toNat

/-- Each setting has a key of its own. -/
theorem key_injective : Function.Injective key := by
  intro first second sameKey
  cases first <;> cases second <;> simp_all [key]

/-- No key needs quotes. -/
theorem bare_key (setting : Setting) :
    ∀ character ∈ setting.key.toList, Toml.isBareCharacter character = true := by
  cases setting <;> simp [key, Toml.isBareCharacter]

/-- What a storable configuration has for a setting, as a plain value. -/
def plain (config : StoreConfig) (storable : config.Storable) : Setting → Toml.PlainValue
  | initialCapacity => .number config.initialCapacity.toNat storable.initialCapacity
  | validateNames => .switch config.validateNames
  | statsBuckets => .number config.statsBuckets.toNat storable.statsBuckets

/-- The line of a setting as a line of a document. -/
def plainPair (setting : Setting) (config : StoreConfig) (storable : config.Storable) :
    Toml.PlainPair where
  key := setting.key
  plain := setting.plain config storable
  key_nonempty := by cases setting <;> decide
  key_bare := bare_key setting

/-- As a plain pair, a setting is written on the same line. -/
theorem line_plainPair (setting : Setting) (config : StoreConfig) (storable : config.Storable) :
    (setting.plainPair config storable).line = setting.line config := by
  cases setting <;> rfl

/-- As a plain pair, a setting gives its key the value that the configuration has. -/
theorem entry_plainPair (setting : Setting) (config : StoreConfig) (storable : config.Storable) :
    (setting.plainPair config storable).entry = (setting.key, setting.value config) := by
  cases setting <;> rfl

end Setting

/-! ### The entries of the document -/

/-- Lines of settings as lines of a document. -/
def plainPairs (lines : List (Setting × StoreConfig))
    (storable : ∀ line ∈ lines, line.2.Storable) : List Toml.PlainPair :=
  lines.pmap (fun line => line.1.plainPair line.2) storable

/-- A part of the pairs that depends on setting and configuration alone can be read off the lines.
-/
theorem map_plainPairs {Part : Type} {part : Toml.PlainPair → Part}
    {own : Setting × StoreConfig → Part}
    (agree : ∀ line storable, part (line.1.plainPair line.2 storable) = own line)
    (lines : List (Setting × StoreConfig)) (storable : ∀ line ∈ lines, line.2.Storable) :
    (plainPairs lines storable).map part = lines.map own := by
  rw [plainPairs, List.map_pmap, ← List.pmap_eq_map storable]
  exact List.pmap_congr_left lines fun line _ storable _ => agree line storable

/-- The pairs of a text are written as its lines are. -/
theorem map_line_plainPairs (lines : List (Setting × StoreConfig))
    (storable : ∀ line ∈ lines, line.2.Storable) :
    (plainPairs lines storable).map Toml.PlainPair.line = lines.map fun line => line.1.line line.2 :=
  map_plainPairs (fun line storable => line.1.line_plainPair line.2 storable) lines storable

/-- A reader that knows TOML finds the key and the value of each line. -/
theorem map_entry_plainPairs (lines : List (Setting × StoreConfig))
    (storable : ∀ line ∈ lines, line.2.Storable) :
    (plainPairs lines storable).map Toml.PlainPair.entry =
      lines.map fun line => (line.1.key, line.1.value line.2) :=
  map_plainPairs (fun line storable => line.1.entry_plainPair line.2 storable) lines storable

/-- A key comes twice exactly if a setting does. -/
theorem nodup_key_plainPairs (lines : List (Setting × StoreConfig))
    (storable : ∀ line ∈ lines, line.2.Storable) :
    ((plainPairs lines storable).map Toml.PlainPair.key).Nodup ↔ (lines.map Prod.fst).Nodup := by
  have sameKeys : (plainPairs lines storable).map Toml.PlainPair.key =
      lines.map (Setting.key ∘ Prod.fst) :=
    map_plainPairs (fun _ _ => rfl) lines storable
  rw [sameKeys, ← List.map_map, List.nodup_map_iff Setting.key_injective]

/-- As each setting has a key of its own, a lookup finds its line wherever it stands. -/
theorem find?_of_chosen (config : StoreConfig) (chosen : List Setting) (setting : Setting) :
    Toml.find? setting.key (chosen.map fun setting => (setting.key, setting.value config)) =
      if setting ∈ chosen then some (setting.value config) else none := by
  induction chosen with
  | nil => rfl
  | cons first chosen inductionHypothesis =>
      rw [Toml.find?] at inductionHypothesis ⊢
      by_cases same : setting = first
      · simp [same]
      · have otherKey : (setting.key == first.key) = false :=
          beq_false_of_ne fun sameKey => same (Setting.key_injective sameKey)
        simp [List.lookup_cons, otherKey, same, inductionHypothesis]

variable {entries : Toml.Entries} {key : String}

/-- Only what is found under the keys matters. -/
theorem ofEntries_congr {other : Toml.Entries}
    (same : ∀ key, Toml.find? key entries = Toml.find? key other) :
    ofEntries entries = ofEntries other := by
  simp only [ofEntries, numberSetting, switchSetting, same]

/-- A number that is given is taken over, and the default stands where none is. -/
theorem numberSetting_eq {given : Prop} [Decidable given] {count : UInt64} (default : UInt64)
    (found : Toml.find? key entries = if given then some (.integer count.toNat) else none) :
    numberSetting entries key default = .ok (if given then count else default) := by
  by_cases isGiven : given
  · rw [if_pos isGiven] at found ⊢
    simp [numberSetting, found]
  · rw [if_neg isGiven] at found ⊢
    simp [numberSetting, found]

/-- A switch that is given is taken over, and the default stands where none is. -/
theorem switchSetting_eq {given : Prop} [Decidable given] {flag : Bool} (default : Bool)
    (found : Toml.find? key entries = if given then some (.boolean flag) else none) :
    switchSetting entries key default = .ok (if given then flag else default) := by
  by_cases isGiven : given
  · rw [if_pos isGiven] at found ⊢
    simp [switchSetting, found]
  · rw [if_neg isGiven] at found ⊢
    simp [switchSetting, found]

/-- What a configuration has for the chosen settings, and the defaults for the others. -/
def restrictedTo (chosen : List Setting) (config : StoreConfig) : StoreConfig where
  initialCapacity := if .initialCapacity ∈ chosen then config.initialCapacity else defaultBuckets
  validateNames := if .validateNames ∈ chosen then config.validateNames else true
  statsBuckets := if .statsBuckets ∈ chosen then config.statsBuckets else defaultBuckets

/-- The settings are read one by one, and each of them has to be readable. -/
theorem ofEntries_eq_ok_iff {config : StoreConfig} : ofEntries entries = .ok config ↔
    numberSetting entries "initial_capacity" defaultBuckets = .ok config.initialCapacity ∧
    switchSetting entries "validate_names" true = .ok config.validateNames ∧
    numberSetting entries "stats_buckets" defaultBuckets = .ok config.statsBuckets := by
  obtain ⟨initialCapacity, validateNames, statsBuckets⟩ := config
  simp only [ofEntries]
  cases numberSetting entries "initial_capacity" defaultBuckets with
  | error fault => simp [bind, Except.bind]
  | ok capacity =>
      cases switchSetting entries "validate_names" true with
      | error fault => simp [bind, Except.bind]
      | ok validation =>
          cases numberSetting entries "stats_buckets" defaultBuckets with
          | error fault => simp [bind, Except.bind]
          | ok buckets => simp [bind, Except.bind, pure, Except.pure]

/-- The entries of some settings give these settings and the defaults for the others. -/
theorem ofEntries_of_chosen (config : StoreConfig) (chosen : List Setting) :
    ofEntries (chosen.map fun setting => (setting.key, setting.value config)) =
      .ok (config.restrictedTo chosen) := by
  have found := find?_of_chosen config chosen
  exact ofEntries_eq_ok_iff.mpr ⟨numberSetting_eq _ (found .initialCapacity),
    switchSetting_eq _ (found .validateNames), numberSetting_eq _ (found .statsBuckets)⟩

/-! ### Reading the document -/

/-- A count that is not zero is positive. -/
theorem toNat_pos_iff {count : UInt64} : 0 < count.toNat ↔ count ≠ 0 := by
  rw [Nat.pos_iff_ne_zero, ne_eq, ne_eq, ← UInt64.toNat_inj, UInt64.toNat_zero]

variable {read : Toml.DocumentReader} {config : StoreConfig} {ending : String}

/-- Lines for different settings are read as these settings, unless they ask for zero buckets. -/
theorem ofToml_chosen (standard : read.Standard) (storable : config.Storable)
    {chosen : List Setting} (distinct : chosen.Nodup) (isEnding : ending = "" ∨ ending = "\n") :
    ofToml read (Toml.document (chosen.map (Setting.line config)) ending) =
      if (config.restrictedTo chosen).statsBuckets = 0 then .error .zeroBuckets
      else .ok (config.restrictedTo chosen) := by
  -- The standard speaks of pairs, and the lines are those of pairs.
  have allStorable : ∀ line ∈ chosen.map (·, config), line.2.Storable := by
    simpa using fun _ _ => storable
  have differentKeys : ((plainPairs (chosen.map (·, config)) allStorable).map
      Toml.PlainPair.key).Nodup := by
    rw [nodup_key_plainPairs]
    simpa [Function.comp_def] using distinct
  obtain ⟨entries, isRead, found⟩ := standard.distinct _ ending isEnding differentKeys
  rw [map_line_plainPairs, List.map_map] at isRead
  rw [map_entry_plainPairs, List.map_map] at found
  rw [ofToml, show chosen.map (Setting.line config) =
    chosen.map ((fun line => line.1.line line.2) ∘ (·, config)) from rfl, isRead]
  have settings : ofEntries entries = .ok (config.restrictedTo chosen) :=
    (ofEntries_congr found).trans (ofEntries_of_chosen config chosen)
  simp only [settings]

/-- Lines that give a setting twice are no document. -/
theorem ofToml_of_repetition (standard : read.Standard) {lines : List (Setting × StoreConfig)}
    (storable : ∀ line ∈ lines, line.2.Storable) (repeated : ¬(lines.map Prod.fst).Nodup)
    (isEnding : ending = "" ∨ ending = "\n") :
    ofToml read (Toml.document (lines.map fun line => line.1.line line.2) ending) =
      .error .malformed := by
  have refused := standard.repeated (plainPairs lines storable) ending isEnding
    (mt (nodup_key_plainPairs lines storable).mp repeated)
  rw [map_line_plainPairs] at refused
  rw [ofToml, refused]

/-! ### Reading any text -/

/-- A number that is read comes from an integer of sixty-four bits or from a small default. -/
theorem small_of_numberSetting
    (inRange : ∀ number, Toml.find? key entries = some (.integer number) →
      number < 0x8000000000000000)
    {default count : UInt64} (defaultSmall : default.toNat < 2 ^ 63)
    (read : numberSetting entries key default = .ok count) : count.toNat < 2 ^ 63 := by
  rw [numberSetting] at read
  split at read
  case h_1 =>
    cases read
    exact defaultSmall
  case h_2 number found =>
    have small : number.toNat < 2 ^ 63 := by
      have below := inRange number found
      omega
    split at read
    · cases read
      rw [Nat.toUInt64, UInt64.toNat_ofNat']
      exact Nat.lt_of_le_of_lt (Nat.mod_le _ _) small
    · cases read
  case h_3 => cases read

/-- Settings that are read from the integers of a document can be written back as such. -/
theorem storable_of_ofEntries
    (inRange : ∀ key number, Toml.find? key entries = some (.integer number) →
      number < 0x8000000000000000)
    (read : ofEntries entries = .ok config) : config.Storable := by
  have defaultSmall : defaultBuckets.toNat < 2 ^ 63 := by decide
  obtain ⟨readCapacity, _, readBuckets⟩ := ofEntries_eq_ok_iff.mp read
  exact {
    initialCapacity := small_of_numberSetting (inRange _) defaultSmall readCapacity
    statsBuckets := small_of_numberSetting (inRange _) defaultSmall readBuckets }

/-- Settings that are read from any text can be written back, and there is at least one bucket. -/
theorem storable_of_ofToml (standard : read.Standard) {text : String}
    (given : ofToml read text = .ok config) : config.Storable ∧ config.statsBuckets ≠ 0 := by
  rw [ofToml] at given
  split at given
  case h_1 => cases given
  case h_2 entries isRead =>
    split at given
    case h_1 => cases given
    case h_2 config readEntries =>
      split at given
      case isTrue => cases given
      case isFalse nonzero =>
        cases given
        refine ⟨storable_of_ofEntries (fun key number found => ?_) readEntries, nonzero⟩
        exact (standard.inRange text entries key number isRead found).2

/-- Let documents be read as the standard says, and take a configuration with at least one bucket whose
numbers a document can hold.  Lines for some of its settings, in any order, are read as these settings
with the defaults for the others.  The lines are refused if they ask for zero buckets, and if a setting
comes twice, be it with another value.  And no text at all gives a configuration with numbers that a
document cannot hold, or one under which a name has no bucket. -/
theorem settings_from_lines {read : Toml.DocumentReader} (standard : read.Standard) :
    (∀ (config : StoreConfig) (chosen : List Setting) (ending : String), config.Storable →
      1 ≤ config.statsBuckets.toNat → chosen.Nodup → (ending = "" ∨ ending = "\n") →
        ofToml read (Toml.document (chosen.map (Setting.line config)) ending) =
          .ok (config.restrictedTo chosen)) ∧
    (∀ (config : StoreConfig) (chosen : List Setting) (ending : String), config.Storable →
      chosen.Nodup → .statsBuckets ∈ chosen → (ending = "" ∨ ending = "\n") →
        ofToml read
          (Toml.document (chosen.map (Setting.line { config with statsBuckets := 0 })) ending) =
            .error .zeroBuckets) ∧
    (∀ (lines : List (Setting × StoreConfig)) (ending : String),
      (∀ line ∈ lines, line.2.Storable) → ¬(lines.map Prod.fst).Nodup →
      (ending = "" ∨ ending = "\n") →
        ofToml read (Toml.document (lines.map fun line => line.1.line line.2) ending) =
          .error .malformed) ∧
    ∀ (text : String) (config : StoreConfig), ofToml read text = .ok config →
      1 ≤ config.statsBuckets.toNat ∧ config.Storable ∧ ∀ name : String,
        ∃ bucket < config.statsBuckets.toNat,
          RefName.bucket? name config.statsBuckets.toNat = some bucket := by
  refine ⟨?chosen, ?zero, ?repeated, ?bounded⟩
  case chosen =>
    intro config chosen ending storable positive distinct isEnding
    have nonzero : (config.restrictedTo chosen).statsBuckets ≠ 0 := by
      change (if .statsBuckets ∈ chosen then config.statsBuckets else defaultBuckets) ≠ 0
      split
      · exact toNat_pos_iff.mp positive
      · decide
    rw [ofToml_chosen standard storable distinct isEnding, if_neg nonzero]
  case zero =>
    intro config chosen ending storable distinct given isEnding
    have zeroStorable : StoreConfig.Storable { config with statsBuckets := 0 } :=
      ⟨storable.initialCapacity, show (0 : UInt64).toNat < 2 ^ 63 by decide⟩
    rw [ofToml_chosen standard zeroStorable distinct isEnding, if_pos]
    simp [restrictedTo, given]
  case repeated =>
    intro lines ending storable repeated isEnding
    exact ofToml_of_repetition standard storable repeated isEnding
  case bounded =>
    intro text config given
    obtain ⟨storable, nonzero⟩ := storable_of_ofToml standard given
    have positive : 0 < config.statsBuckets.toNat := toNat_pos_iff.mpr nonzero
    refine ⟨positive, storable, fun name => ⟨_, RefName.bucketOf_lt name positive, ?_⟩⟩
    rw [RefName.bucket?, if_neg (Nat.ne_of_gt positive)]

/-- Two lines in the order of a user, read by the reader of this library. -/
theorem two_settings_from_lines : Toml.DocumentReader.Standard Toml.parse? ∧
    ofToml Toml.parse? "stats_buckets = 7\nvalidate_names = false\n" =
      .ok { validateNames := false, statsBuckets := 7 } := by
  have read := (settings_from_lines Toml.standard_parse?).1
    { validateNames := false, statsBuckets := 7 } [.statsBuckets, .validateNames] "\n"
    ⟨by decide, by decide⟩ (by decide) (by decide) (by decide)
  exact ⟨Toml.standard_parse?, read⟩

end NamedRefs.StoreConfig
