import MediaShelf.Proofs.Catalog.RoundTrip
import MediaShelf.Settings.Layer

/-!
# Settings one by one

Settings are read from two sections, and a layer goes over another one section by section. Seen from a
single setting none of that matters, as long as sections are tables: a layer either gives the setting
a value or is silent about it, a layer on top of another one has the first word
(`Layer.onTopOf_given?`), and the settings of a layer are the values it gives, with the built-in ones
where it is silent (`Layer.settings?_eq_some_iff`). Reading them fails only if one of these values is
not of its type, because each reader accepts exactly what is written for some value of the type.
-/

namespace MediaShelf

/-! ## Sections and settings -/

/-- A part of the settings. -/
inductive SettingsSection where
  | rename
  | placement
deriving DecidableEq

/-- The key of a section in a document. -/
def SettingsSection.key : SettingsSection → String
  | rename => "rename"
  | placement => "placement"

/-- Something that the user can set. -/
inductive Setting where
  | titleLimit
  | deferOnError
  | strategy
  | script
  | scriptName
  | skipSpaceChecks
  | limitSeconds
deriving DecidableEq

namespace Setting

/-- The section with a setting. -/
def part : Setting → SettingsSection
  | titleLimit | deferOnError | strategy | script | scriptName => .rename
  | skipSpaceChecks | limitSeconds => .placement

/-- The key of a setting in its section. -/
def key : Setting → String
  | titleLimit => "max_episode_title_length"
  | deferOnError => "defer_on_error"
  | strategy => "strategy"
  | script => "script"
  | scriptName => "script_name"
  | skipSpaceChecks => "skip_disk_space_checks"
  | limitSeconds => "io_timeout_secs"

/-- What is written in a document for the value of a setting. -/
def valueIn (settings : Settings) : Setting → Json
  | titleLimit => .ofNat settings.rename.titleLimit.toNat
  | deferOnError => .bool settings.rename.deferOnError
  | strategy => .str settings.rename.strategy
  | script => .ofOption (fun path => .str path.text) settings.rename.script
  | scriptName => .str settings.rename.scriptName
  | skipSpaceChecks => .bool settings.placement.skipSpaceChecks
  | limitSeconds => .ofNat settings.placement.limitSeconds.toNat

/-- The value of a setting that nobody has set. -/
def builtIn (x : Setting) : Json :=
  x.valueIn {}

/-- Whether a value is of the type of a setting. -/
def HasType : Setting → Json → Prop
  | titleLimit, value | limitSeconds, value => ∃ n : UInt64, value = .ofNat n.toNat
  | deferOnError, value | skipSpaceChecks, value => ∃ b, value = .bool b
  | strategy, value | scriptName, value => ∃ s, value = .str s
  | script, value => value = .null ∨ ∃ s, value = .str s

theorem forall_iff {p : Setting → Prop} : (∀ x, p x) ↔
    p titleLimit ∧ p deferOnError ∧ p strategy ∧ p script ∧ p scriptName ∧ p skipSpaceChecks ∧
      p limitSeconds := by
  constructor
  · exact fun h => ⟨h _, h _, h _, h _, h _, h _, h _⟩
  · rintro ⟨h₁, h₂, h₃, h₄, h₅, h₆, h₇⟩ x
    cases x <;> assumption

theorem hasType_valueIn (settings : Settings) (x : Setting) : x.HasType (x.valueIn settings) := by
  cases x with
  | script =>
      rw [valueIn]
      cases settings.rename.script with
      | none => exact Or.inl rfl
      | some path => exact Or.inr ⟨path.text, rfl⟩
  | _ => exact ⟨_, rfl⟩

/-- Values of the right types are those of some settings. -/
theorem exists_valueIn {value : Setting → Json} (h : ∀ x : Setting, x.HasType (value x)) :
    ∃ settings, ∀ x : Setting, x.valueIn settings = value x := by
  obtain ⟨⟨limit, hlimit⟩, ⟨defers, hdefers⟩, ⟨strategy, hstrategy⟩, hscript, ⟨name, hname⟩,
    ⟨skips, hskips⟩, ⟨seconds, hseconds⟩⟩ := forall_iff.1 h
  obtain ⟨path, hpath⟩ : ∃ path : Option Path,
      Json.ofOption (fun path => .str path.text) path = value script := by
    rcases hscript with hnull | ⟨s, hs⟩
    · exact ⟨none, hnull.symm⟩
    · exact ⟨some ⟨s⟩, hs.symm⟩
  exact ⟨⟨⟨limit, defers, strategy, path, name⟩, ⟨skips, seconds⟩⟩, forall_iff.2
    ⟨hlimit.symm, hdefers.symm, hstrategy.symm, hpath, hname.symm, hskips.symm, hseconds.symm⟩⟩

end Setting

/-! ## Readers of settings -/

namespace Json

theorem ofNat_inj {n m : Nat} : ofNat n = ofNat m ↔ n = m := by
  rw [ofNat, ofNat, Json.int.injEq]
  exact Int.natCast_inj

/-- A reader accepts what is written for a value as this value, and accepts nothing else. -/
def ReadsExactly {α : Type} (read : Json → Option α) (write : α → Json) : Prop :=
  ∀ value a, read value = some a ↔ value = write a

theorem readsExactly_bool : ReadsExactly bool? Json.bool := by
  intro value b
  cases value <;> simp [bool?]

theorem readsExactly_string : ReadsExactly string? Json.str := by
  intro value s
  cases value <;> simp [string?]

theorem readsExactly_path : ReadsExactly Layer.path? fun path => .str path.text := by
  intro value path
  constructor
  · intro h
    obtain ⟨s, hs, rfl⟩ := Option.map_eq_some_iff.1 h
    exact (readsExactly_string value s).1 hs
  · rintro rfl
    rfl

theorem readsExactly_uint64 : ReadsExactly uint64? fun n : UInt64 => .ofNat n.toNat := by
  intro value n
  constructor
  · intro h
    obtain ⟨i, hi, rfl⟩ := Option.map_eq_some_iff.1 h
    obtain ⟨hint, hrange⟩ := Option.filter_eq_some_iff.1 hi
    obtain rfl : value = .int i := by
      cases value <;> simp_all [int?]
    obtain ⟨hleast, hgreatest⟩ := Text.NumberRange.holds_iff.1 hrange
    have hsmall : i.toNat < 2 ^ 64 := by
      simp only [Text.NumberRange.long] at hgreatest
      omega
    show Json.int i = ofNat (UInt64.ofNat i.toNat).toNat
    rw [UInt64.toNat_ofNat_of_lt' hsmall, ofNat, Int.ofNat_eq_natCast, Int.toNat_of_nonneg hleast]
  · rintro rfl
    exact restores_uint64.read_write n

theorem ReadsExactly.nullable {α : Type} {read : Json → Option α} {write : α → Json}
    (h : ReadsExactly read write) (hnull : ∀ a, write a ≠ .null) :
    ReadsExactly (nullable? read) (ofOption write) := by
  intro value a
  by_cases hvalue : value = .null
  · subst hvalue
    cases a with
    | none => exact iff_of_true rfl rfl
    | some a => exact iff_of_false (by simp [nullable?]) fun heq => hnull a heq.symm
  · have hread : nullable? read value = (read value).map some := by
      cases value <;> first | rfl | exact absurd rfl hvalue
    rw [hread, Option.map_eq_some_iff]
    cases a with
    | none => simp [ofOption, hvalue]
    | some a => simp [ofOption, h value a]

end Json

/-! ## What layers say -/

/-- The value of an object for a key. -/
def Json.valueAt? : Json → String → Option Json
  | .obj members, key => Layer.lastValue? members key
  | _, _ => none

/-- A value that has members. -/
def Json.IsTable (value : Json) : Prop :=
  ∃ members, value = .obj members

/-- The value that a document gives a setting. -/
def Setting.givenIn (x : Setting) (document : Json) : Option Json :=
  (document.valueAt? x.part.key).bind (·.valueAt? x.key)

/-- A table with settings: its sections are tables too, if they are there. -/
structure Json.HasTables (document : Json) : Prop where
  isTable : document.IsTable
  sections : ∀ (part : SettingsSection) (value : Json), document.valueAt? part.key = some value →
    value.IsTable

theorem Json.hasTables_section (key : String) (members : List (String × Json)) :
    (Json.obj [(key, .obj members)]).HasTables := by
  refine ⟨⟨_, rfl⟩, fun part value h => ?_⟩
  simp only [valueAt?, Layer.lastValue?, List.reverse_singleton, List.lookup_cons] at h
  split at h
  · exact ⟨members, (Option.some.inj h).symm⟩
  · cases h

namespace Layer

variable {above below layer : Layer} {x : Setting}

/-- What a layer says about a section. -/
def part (layer : Layer) : SettingsSection → Option Json
  | .rename => layer.rename
  | .placement => layer.placement

/-- The value that a layer gives a setting. -/
def given? (layer : Layer) (x : Setting) : Option Json :=
  (layer.part x.part).bind (·.valueAt? x.key)

/-- The sections of the layer are tables. -/
def HasTables (layer : Layer) : Prop :=
  ∀ part value, layer.part part = some value → value.IsTable

theorem part_ofMembers (members : List (String × Json)) (part : SettingsSection) :
    (ofMembers members).part part = (Json.obj members).valueAt? part.key := by
  cases part <;> rfl

theorem hasTables_ofMembers {members : List (String × Json)}
    (h : (Json.obj members).HasTables) : (ofMembers members).HasTables := by
  intro part value hvalue
  rw [part_ofMembers] at hvalue
  exact h.sections part value hvalue

theorem given?_ofMembers (members : List (String × Json)) (x : Setting) :
    (ofMembers members).given? x = x.givenIn (.obj members) := by
  rw [given?, part_ofMembers, Setting.givenIn]

theorem hasTables_empty : HasTables {} := by
  intro part value hvalue
  cases part <;> cases hvalue

theorem given?_empty (x : Setting) : given? {} x = none := by
  cases x <;> rfl

/-! ## Layers on top of layers -/

theorem lastValue?_append (below above : List (String × Json)) (key : String) :
    lastValue? (below ++ above) key = (lastValue? above key).or (lastValue? below key) := by
  rw [lastValue?, List.reverse_append, List.lookup_append, lastValue?, lastValue?]

theorem part_onTopOf (above below : Layer) (part : SettingsSection) :
    (above.onTopOf below).part part = sectionOver (above.part part) (below.part part) := by
  cases part <;> rfl

theorem sectionOver_tables {above below : Option Json} (habove : ∀ value ∈ above, value.IsTable)
    (hbelow : ∀ value ∈ below, value.IsTable) :
    (∀ value ∈ sectionOver above below, value.IsTable) ∧
      ∀ key, (sectionOver above below).bind (·.valueAt? key) =
        (above.bind (·.valueAt? key)).or (below.bind (·.valueAt? key)) := by
  cases above with
  | none => exact ⟨hbelow, fun _ => rfl⟩
  | some above =>
      obtain ⟨members, rfl⟩ := habove above rfl
      cases below with
      | none => exact ⟨habove, fun _ => Option.or_none.symm⟩
      | some below =>
          obtain ⟨others, rfl⟩ := hbelow below rfl
          exact ⟨fun value hvalue => ⟨_, (Option.some.inj hvalue).symm⟩,
            lastValue?_append others members⟩

theorem HasTables.onTopOf (habove : above.HasTables) (hbelow : below.HasTables) :
    (above.onTopOf below).HasTables := by
  intro part
  rw [part_onTopOf]
  exact (sectionOver_tables (habove part) (hbelow part)).1

/-- A layer on top of another one has the first word about a setting. -/
theorem onTopOf_given? (habove : above.HasTables) (hbelow : below.HasTables) (x : Setting) :
    (above.onTopOf below).given? x = (above.given? x).or (below.given? x) := by
  rw [given?, part_onTopOf]
  exact (sectionOver_tables (habove x.part) (hbelow x.part)).2 x.key

/-! ## Settings of a layer -/

theorem setting_eq_some_iff {α : Type} {read : Json → Option α} {write : α → Json}
    (h : Json.ReadsExactly read write) {fallback a : α} {given : Option Json} :
    setting read fallback given = some a ↔ write a = given.getD (write fallback) := by
  cases given with
  | none =>
      rw [setting, Option.some.injEq, Option.getD_none]
      constructor
      · rintro rfl
        rfl
      · intro heq
        have hfallback := (h (write fallback) fallback).2 rfl
        rw [← heq, (h (write a) a).2 rfl] at hfallback
        exact (Option.some.inj hfallback).symm
  | some value => rw [setting, h, Option.getD_some, eq_comm]

theorem settingsOf_part (h : layer.HasTables) (names : List String) (part : SettingsSection) :
    ∃ given, settingsOf names (layer.part part) = some given ∧
      ∀ x : Setting, x.part = part → given x.key = layer.given? x := by
  simp only [given?]
  cases hpart : layer.part part with
  | none =>
      refine ⟨_, rfl, ?_⟩
      rintro x rfl
      rw [hpart]
      rfl
  | some value =>
      obtain ⟨members, rfl⟩ := h part value hpart
      refine ⟨_, rfl, ?_⟩
      rintro x rfl
      rw [hpart]
      rfl

/-- The settings of a layer are the values that it gives, and the built-in ones where it gives
none. -/
theorem settings?_eq_some_iff (h : layer.HasTables) {settings : Settings} :
    layer.settings? = some settings ↔
      ∀ x : Setting, x.valueIn settings = (layer.given? x).getD x.builtIn := by
  obtain ⟨naming, hnaming, hrename⟩ := settingsOf_part h
    ["max_episode_title_length", "defer_on_error", "strategy", "script", "script_name"] .rename
  obtain ⟨placing, hplacing, hplacement⟩ := settingsOf_part h
    ["skip_disk_space_checks", "io_timeout_secs"] .placement
  rw [Setting.forall_iff, ← hrename _ rfl, ← hrename _ rfl, ← hrename _ rfl, ← hrename _ rfl,
    ← hrename _ rfl, ← hplacement _ rfl, ← hplacement _ rfl]
  simp only [Setting.valueIn, Setting.builtIn, Setting.key,
    ← setting_eq_some_iff Json.readsExactly_uint64, ← setting_eq_some_iff Json.readsExactly_bool,
    ← setting_eq_some_iff Json.readsExactly_string,
    ← setting_eq_some_iff (Json.readsExactly_path.nullable fun _ => nofun)]
  simp only [part] at hnaming hplacing
  simp only [settings?, renameSettings?, placementSettings?, hnaming, hplacing, Option.bind_eq_bind,
    Option.bind_some, Option.pure_def, Option.bind_eq_some_iff, Option.some.injEq]
  -- Each side now says of every setting separately that it can be read as what it is.
  constructor
  · rintro ⟨_, ⟨limit, hlimit, defers, hdefers, strategy, hstrategy, path, hpath, name, hname, rfl⟩,
      _, ⟨skips, hskips, seconds, hseconds, rfl⟩, rfl⟩
    exact ⟨hlimit, hdefers, hstrategy, hpath, hname, hskips, hseconds⟩
  · rintro ⟨hlimit, hdefers, hstrategy, hpath, hname, hskips, hseconds⟩
    exact ⟨_, ⟨_, hlimit, _, hdefers, _, hstrategy, _, hpath, _, hname, rfl⟩,
      _, ⟨_, hskips, _, hseconds, rfl⟩, rfl⟩

/-- Layers that give the same values have the same settings, or both have none. -/
theorem settings?_congr {a b : Layer} (ha : a.HasTables) (hb : b.HasTables)
    (h : ∀ x, a.given? x = b.given? x) : a.settings? = b.settings? := by
  ext settings
  rw [settings?_eq_some_iff ha, settings?_eq_some_iff hb]
  simp only [h]

end Layer

end MediaShelf
