import MediaShelf.Proofs.CommandLine.Preparation
import MediaShelf.Proofs.Settings.Sections
import MediaShelf.Storage.VolumeTable

/-!
# Where a setting comes from

A file that is asked for holds a document, and each variable of the environment that is a setting
stands for a document of its own. Settings are loaded from all these documents, one on top of the
other with the file at the bottom, so for every single setting the last document that gives it a
value decides. Whatever else is in the documents has no part in it: unknown keys, other settings, and
the values that are covered by a later one, whether or not they make sense.

This is so for documents whose sections are tables. A section that is no table covers the one below
it as a whole, and unless it is an array there are no settings to be read. Null is one of these,
though it gives no setting. The other thing that no value of a setting makes up for is a variable
that cannot be read.
-/

namespace MediaShelf

open CommandLine (Machine)

/-! ## Documents -/

/-- The document that a text in a format stands for. -/
def SettingsFormat.document? (format : SettingsFormat) (text : String) : Option Json :=
  (format.parse text).bind (Json.settledDocument? format.hasMarks)

/-- A file that can be asked for holds a document. -/
inductive HoldsDocument (path : Path) : FileContent → Json → Prop
  | text {format : SettingsFormat} {text : String} {document : Json}
      (hformat : SettingsFormat.ofPath? path = some format)
      (hdocument : format.document? text = some document) :
      HoldsDocument path (.text text) document

theorem holdsDocument_render {path : Path} {value document : Json}
    (hformat : SettingsFormat.ofPath? path = some .json) (hplain : value.IsPlain)
    (hsound : SettingsFormat.isSound SettingsFormat.nestingLimit value = true)
    (hsettled : value.settledDocument? true = some document) :
    HoldsDocument path (.text value.render) document := by
  refine .text hformat ?_
  rw [SettingsFormat.document?, SettingsFormat.parse, Json.parse?_render hplain,
    Option.filter_eq_some_iff.2 ⟨rfl, hsound⟩]
  exact hsettled

/-- The value that the last of some documents gives a setting that gives it any. -/
def Setting.lastGivenIn (x : Setting) (documents : List Json) : Option Json :=
  documents.reverse.findSome? x.givenIn

theorem Setting.lastGivenIn_cons (x : Setting) (document : Json) (documents : List Json) :
    x.lastGivenIn (document :: documents) =
      (x.lastGivenIn documents).or (x.givenIn document) := by
  rw [lastGivenIn, List.reverse_cons, List.findSome?_append, lastGivenIn, List.findSome?_singleton]

namespace Environment

/-- The document that a variable stands for, if it is a setting and can be read. -/
def documentOf? (entry : String × String) : Option Json :=
  (keys? entry.1).bind fun keys => (VariableValue.parse? entry.2).map fun value => nest value keys

/-- The documents that the variables stand for. -/
def documents (environment : Environment) : List Json :=
  environment.entries.filterMap documentOf?

/-- A variable that can be read if it is a setting. -/
def IsReadable (entry : String × String) : Prop :=
  (keys? entry.1).isSome → (VariableValue.parse? entry.2).isSome

instance : DecidablePred IsReadable := fun entry =>
  inferInstanceAs (Decidable ((keys? entry.1).isSome → (VariableValue.parse? entry.2).isSome))

theorem keys?_ne_nil (name : String) : keys? name ≠ some [] := by
  intro h
  unfold keys? at h
  split at h
  · simp only [Option.ite_none_left_eq_some, Option.some.injEq, List.map_eq_nil_iff] at h
    exact Text.partsAt_ne_nil _ _ h.2
  · cases h

theorem layerOf?_of_none {entry : String × String} (hreadable : IsReadable entry)
    (h : documentOf? entry = none) : layerOf? entry.1 entry.2 = some {} := by
  rw [layerOf?]
  cases hkeys : keys? entry.1 with
  | none => rfl
  | some keys =>
      obtain ⟨value, hvalue⟩ := Option.isSome_iff_exists.1 (hreadable (by rw [hkeys]; rfl))
      rw [documentOf?, hkeys, Option.bind_some, hvalue] at h
      cases h

theorem layerOf?_of_some {entry : String × String} {document : Json}
    (h : documentOf? entry = some document) :
    ∃ members, document = .obj members ∧ layerOf? entry.1 entry.2 = some (.ofMembers members) := by
  obtain ⟨keys, hkeys, hvalue⟩ := Option.bind_eq_some_iff.1 h
  obtain ⟨value, hparse, rfl⟩ := Option.map_eq_some_iff.1 hvalue
  cases keys with
  | nil => exact absurd hkeys (keys?_ne_nil entry.1)
  | cons key rest => exact ⟨_, rfl, by rw [layerOf?, hkeys, hparse]; rfl⟩

/-- Variables go on top of each other as their documents do. -/
theorem exists_foldlM_layerOf? {entries : List (String × String)} {below : Layer}
    (hreadable : ∀ entry ∈ entries, IsReadable entry)
    (htables : ∀ document ∈ entries.filterMap documentOf?, document.HasTables)
    (hbelow : below.HasTables) :
    ∃ layer, entries.foldlM (fun below entry =>
        (layerOf? entry.1 entry.2).map fun above => above.onTopOf below) below = some layer ∧
      layer.HasTables ∧ ∀ x : Setting,
        layer.given? x = (x.lastGivenIn (entries.filterMap documentOf?)).or (below.given? x) := by
  induction entries generalizing below with
  | nil => exact ⟨below, rfl, hbelow, fun x => rfl⟩
  | cons entry rest ih =>
      obtain ⟨hentry, hrest⟩ := List.forall_mem_cons.1 hreadable
      rw [List.foldlM_cons]
      cases hdocument : documentOf? entry with
      | none =>
          -- A variable that is no setting still gives a layer, but an empty one.
          rw [List.filterMap_cons_none hdocument] at htables ⊢
          rw [layerOf?_of_none hentry hdocument, Option.map_some, Option.bind_eq_bind,
            Option.bind_some]
          obtain ⟨layer, hlayer, hlayers, hgiven⟩ :=
            ih hrest htables (Layer.hasTables_empty.onTopOf hbelow)
          refine ⟨layer, hlayer, hlayers, fun x => ?_⟩
          rw [hgiven, Layer.onTopOf_given? Layer.hasTables_empty hbelow, Layer.given?_empty,
            Option.none_or]
      | some document =>
          rw [List.filterMap_cons_some hdocument, List.forall_mem_cons] at htables
          obtain ⟨members, rfl, hlayer⟩ := layerOf?_of_some hdocument
          have habove := Layer.hasTables_ofMembers htables.1
          rw [hlayer, Option.map_some, Option.bind_eq_bind, Option.bind_some,
            List.filterMap_cons_some hdocument]
          obtain ⟨layer, hlayer, hlayers, hgiven⟩ := ih hrest htables.2 (habove.onTopOf hbelow)
          refine ⟨layer, hlayer, hlayers, fun x => ?_⟩
          rw [hgiven, Layer.onTopOf_given? habove hbelow, Layer.given?_ofMembers,
            Setting.lastGivenIn_cons, Option.or_assoc]

/-- The variables of an environment can be read, and their sections are tables. -/
structure GivesTables (environment : Environment) : Prop where
  readable : ∀ entry ∈ environment.entries, IsReadable entry
  tables : ∀ document ∈ environment.documents, document.HasTables

theorem GivesTables.exists_layer? {environment : Environment} (h : environment.GivesTables) :
    ∃ layer, environment.layer? = some layer ∧ layer.HasTables ∧
      ∀ x : Setting, layer.given? x = x.lastGivenIn environment.documents := by
  obtain ⟨layer, hlayer, hlayers, hgiven⟩ :=
    exists_foldlM_layerOf? h.readable h.tables Layer.hasTables_empty
  refine ⟨layer, hlayer, hlayers, fun x => ?_⟩
  rw [hgiven, Layer.given?_empty, Option.or_none]
  rfl

end Environment

/-! ## Loading -/

/-- The value that counts for a setting: that of the environment, otherwise that of the file,
otherwise the built-in one. -/
def Setting.effective (x : Setting) (environment : Environment) (document : Json) : Json :=
  ((x.lastGivenIn environment.documents).or (x.givenIn document)).getD x.builtIn

/-- Values for all settings that make up valid settings. -/
structure Setting.AreValid (value : Setting → Json) : Prop where
  typed : ∀ x : Setting, x.HasType (value x)
  limit : ∀ n, value .titleLimit = .ofNat n → 1 ≤ n
  strategy : ∀ s, value .strategy = .str s → Text.isVisible s = true

theorem Setting.areValid_valueIn {settings : Settings} :
    AreValid (fun x => x.valueIn settings) ↔
      settings.rename.titleLimit ≠ 0 ∧ Text.isVisible settings.rename.strategy = true := by
  constructor
  · intro h
    refine ⟨fun hzero => ?_, h.strategy _ rfl⟩
    have hpositive := h.limit _ rfl
    rw [hzero] at hpositive
    exact absurd hpositive (by decide)
  · rintro ⟨hlimit, hvisible⟩
    refine ⟨fun x => x.hasType_valueIn settings, fun n hn => ?_, fun s hs => ?_⟩
    · rw [← Json.ofNat_inj.1 hn, Nat.one_le_iff_ne_zero]
      exact fun hzero => hlimit (UInt64.toNat_inj.1 hzero)
    · rw [← Json.str.inj hs]
      exact hvisible

theorem HoldsDocument.requestedLayer_eq {path : Path} {content : FileContent}
    {members : List (String × Json)} (h : HoldsDocument path content (.obj members)) :
    Settings.requestedLayer path content = .ok (some (.ofMembers members)) := by
  cases h with
  | @text format text _ hformat hdocument =>
      have hlayer : format.layer? text = some (.ofMembers members) := by
        show (format.document? text).bind Layer.ofJson? = _
        rw [hdocument]
        rfl
      rw [Settings.requestedLayer, hformat, if_neg (by simp)]
      simp only [Settings.layerOf?, hlayer]

namespace Settings

variable {machine : Machine} {path : Path} {document : Json}

theorem ask_load {members : List (String × Json)}
    (hfile : HoldsDocument path (machine.content path) (.obj members)) :
    machine.ask (load (some path) machine.environment) =
      ofLayers machine.environment (some (.ofMembers members)) := by
  rw [load, Machine.ask_bind, readLayer, Machine.ask_bind, Machine.ask_readPath,
    hfile.requestedLayer_eq]
  rfl

theorem exists_layer_of_load (hfile : HoldsDocument path (machine.content path) document)
    (hdocument : document.HasTables) (henvironment : machine.environment.GivesTables) :
    ∃ layer : Layer, layer.HasTables ∧
      (∀ x : Setting, layer.given? x =
        (x.lastGivenIn machine.environment.documents).or (x.givenIn document)) ∧
      machine.ask (load (some path) machine.environment) =
        layer.settings?.elim (.error .badValues) validate := by
  obtain ⟨members, rfl⟩ := hdocument.isTable
  obtain ⟨above, habove, htables, hgiven⟩ := henvironment.exists_layer?
  have hbelow := Layer.hasTables_ofMembers hdocument
  refine ⟨above.onTopOf (.ofMembers members), htables.onTopOf hbelow, fun x => ?_, ?_⟩
  · rw [Layer.onTopOf_given? htables hbelow, hgiven, Layer.given?_ofMembers]
  · simp only [ask_load hfile, ofLayers, habove]
    cases (above.onTopOf (.ofMembers members)).settings? <;> rfl

theorem load_eq_ok_iff (hfile : HoldsDocument path (machine.content path) document)
    (hdocument : document.HasTables) (henvironment : machine.environment.GivesTables)
    {settings : Settings} :
    machine.ask (load (some path) machine.environment) = .ok settings ↔
      (∀ x : Setting, x.valueIn settings = x.effective machine.environment document) ∧
        settings.rename.titleLimit ≠ 0 ∧ Text.isVisible settings.rename.strategy = true := by
  obtain ⟨layer, htables, hgiven, hload⟩ :=
    exists_layer_of_load hfile hdocument henvironment
  have hread : layer.settings? = some settings ↔
      ∀ x : Setting, x.valueIn settings = x.effective machine.environment document := by
    simp only [Layer.settings?_eq_some_iff htables, hgiven, Setting.effective]
  rw [hload, ← hread]
  cases layer.settings? with
  | none => simp
  | some loaded =>
      simp only [Option.elim_some, validate_eq_ok_iff, Option.some.injEq]
      refine and_congr_right fun heq => ?_
      rw [heq]

theorem exists_load_eq_ok_iff (hfile : HoldsDocument path (machine.content path) document)
    (hdocument : document.HasTables) (henvironment : machine.environment.GivesTables) :
    (∃ settings, machine.ask (load (some path) machine.environment) = .ok settings) ↔
      Setting.AreValid fun x => x.effective machine.environment document := by
  constructor
  · rintro ⟨settings, h⟩
    obtain ⟨hvalues, hvalid⟩ := (load_eq_ok_iff hfile hdocument henvironment).1 h
    rw [← funext hvalues]
    exact Setting.areValid_valueIn.2 hvalid
  · intro hvalid
    obtain ⟨settings, hvalues⟩ := Setting.exists_valueIn hvalid.typed
    rw [← funext hvalues, Setting.areValid_valueIn] at hvalid
    exact ⟨settings, (load_eq_ok_iff hfile hdocument henvironment).2 ⟨hvalues, hvalid⟩⟩

/-- Settings are loaded one by one, each from the environment if it is set there, otherwise from the
file if it is set there, and otherwise as it is built in. Loading succeeds if the values that count
make sense, and what they cover has no part in it. -/
theorem load_layered (hfile : HoldsDocument path (machine.content path) document)
    (hdocument : document.HasTables) (henvironment : machine.environment.GivesTables) :
    (∀ settings, machine.ask (load (some path) machine.environment) = .ok settings →
      ∀ x : Setting, x.valueIn settings = x.effective machine.environment document) ∧
    ((∃ settings, machine.ask (load (some path) machine.environment) = .ok settings) ↔
      Setting.AreValid fun x => x.effective machine.environment document) ∧
    ∀ (other : Machine) (otherPath : Path) (otherDocument : Json),
      HoldsDocument otherPath (other.content otherPath) otherDocument → otherDocument.HasTables →
      other.environment = machine.environment →
      (∀ x : Setting, x.lastGivenIn machine.environment.documents = none →
        x.givenIn otherDocument = x.givenIn document) →
      other.ask (load (some otherPath) other.environment) =
        machine.ask (load (some path) machine.environment) := by
  refine ⟨fun settings h => ((load_eq_ok_iff hfile hdocument henvironment).1 h).1,
    exists_load_eq_ok_iff hfile hdocument henvironment, ?_⟩
  intro other otherPath otherDocument hother htables hsame hagree
  obtain ⟨layer, hlayer, hgiven, hload⟩ := exists_layer_of_load hfile hdocument henvironment
  obtain ⟨layer', hlayer', hgiven', hload'⟩ :=
    exists_layer_of_load hother htables (hsame ▸ henvironment)
  have heq : layer'.settings? = layer.settings? := by
    refine Layer.settings?_congr hlayer' hlayer fun x => ?_
    rw [hgiven, hgiven', hsame]
    cases hset : x.lastGivenIn machine.environment.documents with
    | none => rw [hagree x hset]
    | some value => rfl
  rw [hload, hload', heq]

/-- A machine with one document for a file, whichever is asked for. -/
def oneFileMachine (environment : Environment) (file : Json) : Machine where
  environment := environment
  content _ := .text file.render
  filesystem := VolumeTable.filesystem {}

theorem environment_oneFileMachine (environment : Environment) (file : Json) :
    (oneFileMachine environment file).environment = environment := rfl

/-- An environment that sets two things about naming. -/
def namingEnvironment : Environment :=
  ⟨[("SHELF_RENAME__MAX_EPISODE_TITLE_LENGTH", "12"), ("HOME", "/home"),
    ("shelf_rename__defer_on_error", "false")]⟩

theorem documents_namingEnvironment :
    namingEnvironment.documents =
      [.obj [("rename", .obj [("max_episode_title_length", .int 12)])],
        .obj [("rename", .obj [("defer_on_error", .bool false)])]] :=
  rfl

theorem givesTables_namingEnvironment : namingEnvironment.GivesTables where
  readable := by decide +kernel
  tables := by
    rw [documents_namingEnvironment]
    simp only [List.forall_mem_cons, List.not_mem_nil, false_implies, implies_true, and_true]
    exact ⟨Json.hasTables_section _ _, Json.hasTables_section _ _⟩

/-- A document with a limit of no characters. -/
def noTitles : Json :=
  .obj [("rename", .obj [("max_episode_title_length", .int 0)])]

/-- A document with a section in which nothing is set. -/
def nothingSet : Json :=
  .obj [("rename", .obj [])]

/-- A document with a section that is no table. -/
def nullSection : Json :=
  .obj [("rename", .null)]

theorem holdsDocument_noTitles :
    HoldsDocument ⟨"/shelf.json"⟩ (.text noTitles.render) noTitles :=
  holdsDocument_render (by decide +kernel) (by simp [noTitles, Json.isPlain_obj_iff])
    (by decide +kernel) rfl

/-- That document as it is written in TOML. -/
def noTitlesToml : String :=
  "[rename]\nmax_episode_title_length = 0\n"

theorem reads_noTitlesToml : (Toml.parse noTitlesToml.toList matches
    some (.obj [("rename", .obj [("max_episode_title_length", .int 0)])])) = true := by
  decide +kernel

-- Documents cannot be compared by evaluation, but evaluation finds the branch of a match.
theorem parse_noTitlesToml : Toml.parse noTitlesToml.toList = some noTitles := by
  have hreads := reads_noTitlesToml
  split at hreads
  · next hparse => exact hparse
  · cases hreads

theorem holdsDocument_noTitlesToml :
    HoldsDocument ⟨"/shelf.toml"⟩ (.text noTitlesToml) noTitles := by
  have hsettled : Json.settledDocument? SettingsFormat.toml.hasMarks noTitles = some noTitles := rfl
  have hdocument : SettingsFormat.toml.document? noTitlesToml = some noTitles := by
    rw [SettingsFormat.document?, SettingsFormat.parse, parse_noTitlesToml, Option.bind_some,
      hsettled]
  exact .text (by decide +kernel) hdocument

theorem holdsDocument_nothingSet :
    HoldsDocument ⟨"/shelf.json"⟩ (.text nothingSet.render) nothingSet :=
  holdsDocument_render (by decide +kernel) (by simp [nothingSet, Json.isPlain_obj_iff])
    (by decide +kernel) rfl

theorem holdsDocument_nullSection :
    HoldsDocument ⟨"/shelf.json"⟩ (.text nullSection.render) nullSection :=
  holdsDocument_render (by decide +kernel) (by simp [nullSection, Json.isPlain_obj_iff])
    (by decide +kernel) rfl

/-- A machine with one text for a file, whichever is asked for. -/
def oneTextMachine (environment : Environment) (text : String) : Machine where
  environment := environment
  content _ := .text text
  filesystem := VolumeTable.filesystem {}

/-- A limit of no characters in the file does no harm under one in the environment: the settings are
those of a file without it, and of one that is written in another format. -/
theorem load_layered_coveredLimit :
    ∃ settings,
      (oneFileMachine namingEnvironment noTitles).ask
        (load (some ⟨"/shelf.json"⟩) namingEnvironment) = .ok settings ∧
      Setting.titleLimit.valueIn settings = .int 12 ∧
      Setting.deferOnError.valueIn settings = .bool false ∧
      Setting.strategy.valueIn settings = Setting.strategy.builtIn ∧
      (oneFileMachine namingEnvironment nothingSet).ask
        (load (some ⟨"/shelf.json"⟩) namingEnvironment) = .ok settings ∧
      (oneTextMachine namingEnvironment noTitlesToml).ask
        (load (some ⟨"/shelf.toml"⟩) namingEnvironment) = .ok settings := by
  obtain ⟨hvalues, hloads, hcovered⟩ := @load_layered
    (oneFileMachine namingEnvironment noTitles) _ _ holdsDocument_noTitles
    (Json.hasTables_section _ _) givesTables_namingEnvironment
  simp only [environment_oneFileMachine] at hvalues hloads hcovered
  have heffective : ∀ x : Setting, x.effective namingEnvironment noTitles =
      x.valueIn { rename := { titleLimit := 12, deferOnError := false } } := by
    intro x
    rw [Setting.effective, documents_namingEnvironment]
    cases x <;> rfl
  obtain ⟨settings, hload⟩ := hloads.2 (by
    rw [funext heffective]
    exact Setting.areValid_valueIn.2 (by decide))
  have hvalue := fun x => (hvalues settings hload x).trans (heffective x)
  refine ⟨settings, hload, hvalue _, hvalue _, hvalue _, ?_, ?_⟩
  · rw [← hload]
    refine hcovered (oneFileMachine namingEnvironment nothingSet) _ _ holdsDocument_nothingSet
      (Json.hasTables_section _ _) rfl fun x hx => ?_
    rw [documents_namingEnvironment] at hx
    cases x <;> first | rfl | cases hx
  · rw [← hload]
    exact hcovered (oneTextMachine namingEnvironment noTitlesToml) _ _ holdsDocument_noTitlesToml
      (Json.hasTables_section _ _) rfl fun _ _ => rfl

/-- An environment with a variable that stands for nothing known, and that cannot be read. -/
def tornEnvironment : Environment :=
  ⟨[("SHELF_NOTE", "\"日\\\\\"")]⟩

/-- No setting is given and the built-in ones are valid, but there are no settings to be loaded: a
section that is null is not absent, and a quoted text can be torn whatever it is for. -/
theorem not_load_nullSection :
    (HoldsDocument ⟨"/shelf.json"⟩ (.text nullSection.render) nullSection ∧
      (∀ x : Setting, x.effective {} nullSection = x.builtIn) ∧
      (Setting.AreValid fun x => x.effective {} nullSection) ∧
      (oneFileMachine {} nullSection).ask (load (some ⟨"/shelf.json"⟩) {}) = .error .badValues) ∧
    HoldsDocument ⟨"/shelf.json"⟩ (.text nothingSet.render) nothingSet ∧
      (∀ x : Setting, x.effective tornEnvironment nothingSet = x.builtIn) ∧
      (Setting.AreValid fun x => x.effective tornEnvironment nothingSet) ∧
      (oneFileMachine tornEnvironment nothingSet).ask
        (load (some ⟨"/shelf.json"⟩) tornEnvironment) = .error .tornVariable := by
  have hbuiltIn : Setting.AreValid Setting.builtIn := Setting.areValid_valueIn.2 (by decide)
  have hsilent : ∀ x : Setting, x.effective {} nullSection = x.builtIn := by
    intro x
    cases x <;> rfl
  have hdocuments : tornEnvironment.documents = [] := by decide +kernel
  have hsilent' : ∀ x : Setting, x.effective tornEnvironment nothingSet = x.builtIn := by
    intro x
    rw [Setting.effective, hdocuments]
    cases x <;> rfl
  have htorn : tornEnvironment.layer? = none := by decide +kernel
  refine ⟨⟨holdsDocument_nullSection, hsilent, funext hsilent ▸ hbuiltIn, ?_⟩,
    holdsDocument_nothingSet, hsilent', funext hsilent' ▸ hbuiltIn, ?_⟩
  · exact @ask_load (oneFileMachine {} nullSection) _ _ holdsDocument_nullSection
  · have hload := @ask_load (oneFileMachine tornEnvironment nothingSet) _ _
      holdsDocument_nothingSet
    rw [environment_oneFileMachine] at hload
    rw [hload]
    simp only [ofLayers, htorn]

end Settings

end MediaShelf
