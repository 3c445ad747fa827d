import MediaShelf.Proofs.Path
import MediaShelf.Proofs.Text.Visible
import MediaShelf.Script.TokenValue

/-!
# What a file has, and what shows

A script asks whether a file has a token before it writes a separator in front of it, so a token
that the file has should show, and one that it lacks should not. Most tokens do both. What makes
the value of a token visible is said once for all of them (`Token.isVisible_value_iff`), and there
are two kinds of tokens for which it is not the presence.

A file has languages, codecs or an original name as soon as there is an entry at all, while the
value leaves out blank entries, and an extension (`Token.Shows`). So the file can have them and yet
show nothing.

And where the catalog holds a zero or `unknown` for want of a better value, the file lacks the
token, but its value is written out all the same (`Token.SpellsUnknown`).
-/

namespace MediaShelf

/-! ## Values that show -/

theorem isVisible_getD (text : Option String) :
    Text.isVisible (text.getD "") = text.any Text.isVisible := by
  cases text with
  | none => rfl
  | some text => rfl

/-- A value that is visible whenever there is one. -/
theorem isVisible_map_getD {α : Type} {f : α → String} (h : ∀ a, Text.isVisible (f a) = true)
    (a : Option α) : Text.isVisible ((a.map f).getD "") = a.isSome := by
  cases a with
  | none => rfl
  | some a => exact h a

theorem isVisible_of_stem? {path : Path} {stem : String} (h : path.stem? = some stem)
    (hvisible : Text.isVisible stem = true) : Text.isVisible path.text = true :=
  Text.isVisible_of_subset hvisible (Path.subset_of_stem? h)

theorem isVisible_mark {mark : String} (h : Text.isVisible mark = true) (set : Bool) :
    Text.isVisible (if set then mark else "") = set := by
  cases set with
  | false => rfl
  | true => exact h

theorem isVisible_truncateTitle {title : String} (h : Text.isVisible title = true) (limit : Nat) :
    Text.isVisible (truncateTitle title limit) = true := by
  rw [truncateTitle]
  split
  · exact h
  · rw [Text.isVisible_iff, String.toList_ofList]
    exact ⟨ellipsis, List.mem_append_right _ (List.mem_singleton_self _), by decide⟩

theorem Episode.isVisible_of_title? {episode : Episode} {language title : String}
    (h : episode.title? language = some title) : Text.isVisible title = true := by
  obtain ⟨entry, hentry, rfl⟩ := Option.map_eq_some_iff.1 h
  have hfound := List.find?_some hentry
  exact (Bool.and_eq_true_iff.1 hfound).2

theorem isVisible_episodeNumber (episode : Episode) (s : Show) :
    Text.isVisible (episodeNumber episode s) = true :=
  Text.isVisible_append_right (Text.isVisible_paddedDigits _ _) _

theorem isVisible_groupName (name : Option String) : Text.isVisible (groupName name) = true := by
  unfold groupName
  split
  · split
    · next h => rwa [Text.isVisible_trimmed]
    · decide
  · decide

theorem groupName_eq_unknown {name : Option String} (h : name.any Text.isVisible = false) :
    groupName name = "Unknown" := by
  cases name with
  | none => rfl
  | some name =>
      rw [Option.any_some] at h
      simp only [groupName, h, Bool.false_eq_true, if_false]

/-- What was put together from parts has all the characters of each of them. -/
theorem subset_intercalate (separator : List Char) {part : List Char} {parts : List (List Char)}
    (h : part ∈ parts) : part ⊆ separator.intercalate parts := by
  induction parts with
  | nil => cases h
  | cons first others ih =>
      cases others with
      | nil =>
          rw [List.mem_singleton.1 h, List.intercalate_singleton]
          exact List.Subset.refl _
      | cons other others =>
          rw [List.intercalate_cons_cons]
          cases h with
          | head => exact List.subset_append_of_subset_left _ (List.subset_append_left _ _)
          | tail _ h => exact List.subset_append_of_subset_right _ (ih h)

theorem isVisible_joinVisible_iff {values : List String} :
    Text.isVisible (joinVisible values) = true ↔
      ∃ value ∈ values, Text.isVisible value = true := by
  rw [joinVisible]
  constructor
  · intro hjoined
    by_contra hnone
    have hfilter : values.filter Text.isVisible = [] :=
      List.filter_eq_nil_iff.2 fun value hvalue hvisible => hnone ⟨value, hvalue, hvisible⟩
    rw [hfilter] at hjoined
    exact absurd hjoined (by decide)
  · rintro ⟨value, hvalue, hvisible⟩
    have hkept : value ∈ values.filter Text.isVisible := List.mem_filter.2 ⟨hvalue, hvisible⟩
    refine Text.isVisible_of_subset ((Text.isVisible_trimmed value).trans hvisible) ?_
    rw [String.toList_intercalate]
    exact subset_intercalate _ (List.mem_map_of_mem (List.mem_map_of_mem hkept))

theorem Source.isVisible_text (source : Source) : Text.isVisible source.text = true := by
  cases source <;> decide

theorem ShowKind.isVisible_text (kind : ShowKind) : Text.isVisible kind.text = true := by
  cases kind <;> decide

namespace NamingContext

variable (ctx : NamingContext) (options : NamingOptions)

theorem isVisible_episodeTitle (language : String) :
    Text.isVisible (ctx.episodeTitle options language) =
      (ctx.firstEpisode?.bind (·.title? language)).any Text.isVisible := by
  rw [episodeTitle]
  cases htitle : ctx.firstEpisode?.bind (·.title? language) with
  | none => rfl
  | some title =>
      obtain ⟨episode, -, hfound⟩ := Option.bind_eq_some_iff.1 htitle
      have hvisible := episode.isVisible_of_title? hfound
      rw [Option.any_some, hvisible]
      exact isVisible_truncateTitle hvisible options.titleLimit

theorem isVisible_episodeRange :
    Text.isVisible ctx.episodeRange = ctx.firstEpisode?.isSome := by
  rw [episodeRange, firstEpisode?, lastEpisode?]
  cases ctx.episodes with
  | nil => rfl
  | cons first others =>
      rw [List.head?_cons, List.getLast?_cons]
      simp only [Option.isSome_some]
      split
      · exact isVisible_episodeNumber _ _
      · exact Text.isVisible_append_right (isVisible_episodeNumber _ _) _

theorem isVisible_resolution :
    Text.isVisible ctx.resolution =
      ctx.file.video.any fun video => 0 < video.width && 0 < video.height := by
  rw [resolution]
  cases ctx.file.video with
  | none => rfl
  | some video =>
      have hpos : ∀ n : UInt32, decide (0 < n) = !decide (n = 0) := fun n => by
        rw [← decide_not, decide_eq_decide, UInt32.pos_iff_ne_zero]
      simp only [Option.any_some, hpos]
      by_cases hwidth : video.width = 0
      · rw [if_pos (Or.inl hwidth), hwidth]
        rfl
      · by_cases hheight : video.height = 0
        · rw [if_pos (Or.inr hheight), hheight, Bool.and_comm]
          rfl
        · rw [if_neg (not_or.2 ⟨hwidth, hheight⟩), decide_eq_false hwidth, decide_eq_false hheight]
          exact Text.isVisible_append_right (Text.isVisible_ofNat _) _

end NamingContext

namespace Token

/-! ## Where presence and value part -/

/-- What a file has for the token can be seen. Only a list, or the original name, can be there and
yet show nothing. -/
def Shows (token : Token) (ctx : NamingContext) : Prop :=
  match token with
  | audioCodec => ∃ codec ∈ ctx.file.audioCodecs, Text.isVisible codec = true
  | dubLanguages => ∃ language ∈ ctx.file.audioTracks, Text.isVisible language = true
  | subLanguages => ∃ language ∈ ctx.file.subtitleTracks, Text.isVisible language = true
  | originalFileName =>
    ∃ name stem, ctx.file.release.bind (·.originalFileName) = some name ∧
      (Path.mk name).stem? = some stem ∧ Text.isVisible stem = true
  | _ => True

/-- What the catalog holds for the token is the number or the word for something unknown. -/
def SpellsUnknown (token : Token) (ctx : NamingContext) : Prop :=
  match token with
  | episodeCount => ctx.show.normalEpisodes = 0
  | showId => ctx.show.id = 0
  | groupId => ∃ group, ctx.group? = some group ∧ group.id = 0
  | source => ∃ release, ctx.file.release = some release ∧ release.source = .unknown
  | _ => False

/-- The word or the number for something unknown. -/
def unknownText : Token → String
  | source => "unknown"
  | _ => "0"

/-- What stands in for the token in a name if the file lacks it. -/
def fallback? : Token → Option String
  | groupShortName | groupLongName => some "Unknown"
  | fileVersion => some "1"
  | _ => none

/-- A value that may stand for a token that the file lacks: the fallback, or nothing that shows. -/
def IsFallback (token : Token) (value : String) : Prop :=
  match token.fallback? with
  | some text => value = text
  | none => Text.isVisible value = false

variable {token : Token} {ctx : NamingContext}

theorem isPresent_of_spellsUnknown (h : token.SpellsUnknown ctx) : token.isPresent ctx = false := by
  cases token with
  | episodeCount =>
      have hzero : ctx.show.normalEpisodes = 0 := h
      rw [isPresent, hzero]
      rfl
  | showId =>
      have hzero : ctx.show.id = 0 := h
      rw [isPresent, hzero]
      rfl
  | groupId =>
      obtain ⟨group, hgroup, hzero⟩ := h
      rw [isPresent, hgroup, Option.any_some, hzero]
      rfl
  | source =>
      obtain ⟨release, hrelease, hunknown⟩ := h
      rw [isPresent, hrelease, Option.any_some, hunknown]
      rfl
  | _ => exact h.elim

theorem value_of_spellsUnknown (h : token.SpellsUnknown ctx) (options : NamingOptions) :
    token.value ctx options = token.unknownText := by
  cases token with
  | episodeCount =>
      have hzero : ctx.show.normalEpisodes = 0 := h
      rw [value, hzero]
      exact Text.ofNat_zero
  | showId =>
      have hzero : ctx.show.id = 0 := h
      rw [value, hzero]
      exact Text.ofNat_zero
  | groupId =>
      obtain ⟨group, hgroup, hzero⟩ := h
      rw [value, hgroup, Option.map_some, Option.getD_some, hzero]
      exact Text.ofNat_zero
  | source =>
      obtain ⟨release, hrelease, hunknown⟩ := h
      rw [value, hrelease, Option.map_some, Option.getD_some, hunknown]
      rfl
  | _ => exact h.elim

theorem value_of_fallback? (h : token.isPresent ctx = false) {text : String}
    (hfallback : token.fallback? = some text) (options : NamingOptions) :
    token.value ctx options = text := by
  cases token with
  | groupShortName =>
      cases hfallback
      refine groupName_eq_unknown ?_
      rw [Option.any_map]
      exact h
  | groupLongName =>
      cases hfallback
      refine groupName_eq_unknown ?_
      rw [Option.any_map]
      exact h
  | fileVersion =>
      cases hfallback
      rw [isPresent, Option.isSome_eq_false_iff, Option.isNone_iff_eq_none] at h
      rw [value, h]
  | _ => cases hfallback

theorem isVisible_value_of_fallback? (h : token.fallback?.isSome = true)
    (options : NamingOptions) : Text.isVisible (token.value ctx options) = true := by
  cases token with
  | groupShortName | groupLongName => exact isVisible_groupName _
  | fileVersion =>
      simp only [value]
      split
      · exact Text.isVisible_ofNat _
      · decide
  | _ => cases h

/-- What makes a value visible: a fallback, an unknown that is written out, or something that the
file has and that shows. -/
theorem isVisible_value_iff (token : Token) (ctx : NamingContext) (options : NamingOptions) :
    Text.isVisible (token.value ctx options) = true ↔
      token.fallback?.isSome = true ∨ token.SpellsUnknown ctx ∨
        (token.isPresent ctx = true ∧ token.Shows ctx) := by
  -- Most tokens have no fallback, spell nothing out and show what there is.
  have plain : ∀ {text : String} {present : Bool}, Text.isVisible text = present →
      (Text.isVisible text = true ↔
        (none : Option String).isSome = true ∨ False ∨ (present = true ∧ True)) := by
    rintro text present rfl
    simp
  have listed : ∀ values : List String, Text.isVisible (joinVisible values) = true ↔
      (none : Option String).isSome = true ∨ False ∨
        ((!values.isEmpty) = true ∧ ∃ value ∈ values, Text.isVisible value = true) := by
    intro values
    rw [isVisible_joinVisible_iff]
    cases values <;> simp
  cases token with
  | showTitleMain | showTitleKanji | showTitleEnglish | videoCodec => exact plain (isVisible_getD _)
  | episodeTitleRomaji | episodeTitleEnglish => exact plain (ctx.isVisible_episodeTitle options _)
  | episodeNumber => exact plain ctx.isVisible_episodeRange
  | hashLower => exact plain (Text.isVisible_lowerText _)
  | hashUpper => exact plain (Text.isVisible_upperText _)
  | checksumLower => exact plain ((Text.isVisible_lowerText _).trans (isVisible_getD _))
  | checksumUpper => exact plain ((Text.isVisible_upperText _).trans (isVisible_getD _))
  | resolution => exact plain ctx.isVisible_resolution
  | bitDepth | episodeId => exact plain (isVisible_map_getD (fun _ => Text.isVisible_ofNat _) _)
  | year => exact plain (isVisible_map_getD (fun _ => Text.isVisible_ofInt _) _)
  | fileId => exact plain (Text.isVisible_ofNat _)
  | showKind =>
      refine plain ?_
      rw [value, isPresent]
      by_cases hkind : ctx.show.kind = .unknown
      · rw [if_pos hkind, hkind]
        rfl
      · rw [if_neg hkind, ShowKind.isVisible_text, bne_iff_ne.2 hkind]
  | censored | deprecated => exact plain (isVisible_mark (by decide) _)
  | groupShortName | groupLongName | fileVersion =>
      exact iff_of_true (isVisible_value_of_fallback? rfl options) (Or.inl rfl)
  | episodeCount =>
      refine iff_of_true (Text.isVisible_ofNat _) (Or.inr ?_)
      by_cases hcount : ctx.show.normalEpisodes = 0
      · exact Or.inl hcount
      · exact Or.inr ⟨decide_eq_true (UInt32.pos_iff_ne_zero.2 hcount), trivial⟩
  | showId =>
      refine iff_of_true (Text.isVisible_ofNat _) (Or.inr ?_)
      by_cases hid : ctx.show.id = 0
      · exact Or.inl hid
      · exact Or.inr ⟨bne_iff_ne.2 hid, trivial⟩
  | groupId =>
      simp only [value, isPresent, fallback?, SpellsUnknown, Shows]
      cases ctx.group? with
      | none => simp [Text.isVisible, Text.isBlank]
      | some group => simp [Text.isVisible_ofNat, Classical.em]
  | source =>
      simp only [value, isPresent, fallback?, SpellsUnknown, Shows]
      cases ctx.file.release with
      | none => simp [Text.isVisible, Text.isBlank]
      | some release => simp [Source.isVisible_text, Classical.em]
  | audioCodec | dubLanguages | subLanguages => exact listed _
  | originalFileName =>
      simp only [value, isPresent, fallback?, SpellsUnknown, Shows, isVisible_getD]
      cases ctx.file.release.bind (·.originalFileName) with
      | none => simp
      | some name =>
          cases hstem : (Path.mk name).stem? with
          | none => simp [hstem]
          | some stem =>
              have hname := isVisible_of_stem? hstem
              simpa [hstem] using hname

/-- A token that a file has shows, unless what the file has for it is a list without a visible
entry, or an original name of which nothing visible is left without the extension. -/
theorem isVisible_value_of_isPresent_iff (h : token.isPresent ctx = true)
    (options : NamingOptions) :
    Text.isVisible (token.value ctx options) = true ↔ token.Shows ctx := by
  rw [isVisible_value_iff]
  constructor
  · rintro (hfallback | hunknown | ⟨-, hshows⟩)
    · cases token with
      | groupShortName | groupLongName | fileVersion => trivial
      | _ => cases hfallback
    · rw [isPresent_of_spellsUnknown hunknown] at h
      cases h
    · exact hshows
  · exact fun hshows => Or.inr (Or.inr ⟨h, hshows⟩)

/-- A file whose tracks have no names, released under a name that is only an extension behind a
blank. -/
def namelessContext : NamingContext where
  file :=
    { id := 1, fileName := "a.mkv", hash := "aa", size := 10, audioCodecs := ["", " AAC"]
      release := some
        { id := 9, source := .web, originalFileName := some " .mkv", audioLanguages := [" "]
          subtitleLanguages := [""] } }
  episodes := [{ id := 10, showId := 1, number := 1 }]
  «show» := { id := 1, normalEpisodes := 1 }

/-- One visible entry is enough. -/
theorem isVisible_value_of_isPresent_codec :
    audioCodec.isPresent namelessContext = true ∧ audioCodec.Shows namelessContext ∧
      Text.isVisible (audioCodec.value namelessContext {}) = true := by
  have hpresent : audioCodec.isPresent namelessContext = true := rfl
  have hshows : audioCodec.Shows namelessContext := ⟨" AAC", by decide, by decide⟩
  exact ⟨hpresent, hshows, (isVisible_value_of_isPresent_iff hpresent {}).2 hshows⟩

/-- The file has languages and an original name, and nothing of them shows. -/
theorem not_isVisible_value_nameless :
    (∀ token ∈ [dubLanguages, subLanguages, originalFileName],
      token.isPresent namelessContext = true ∧
        Text.isVisible (token.value namelessContext {}) = false) ∧
      ¬ ∀ (token : Token) (ctx : NamingContext) (options : NamingOptions),
        token.isPresent ctx = true → Text.isVisible (token.value ctx options) = true := by
  have hhidden : ∀ token ∈ [dubLanguages, subLanguages, originalFileName],
      token.isPresent namelessContext = true ∧
        Text.isVisible (token.value namelessContext {}) = false := by
    decide +kernel
  refine ⟨hhidden, fun hshown => ?_⟩
  obtain ⟨hpresent, hblank⟩ := hhidden subLanguages (by decide)
  rw [hshown subLanguages namelessContext {} hpresent] at hblank
  cases hblank

/-- A token that a file lacks is left out or has its fallback, unless the catalog has a zero or
`unknown` for it, which is then written out. -/
theorem isFallback_value_of_absent_iff (h : token.isPresent ctx = false)
    (options : NamingOptions) :
    (token.IsFallback (token.value ctx options) ↔ ¬ token.SpellsUnknown ctx) ∧
      (token.SpellsUnknown ctx → token.value ctx options = token.unknownText) := by
  refine ⟨?_, fun hunknown => value_of_spellsUnknown hunknown options⟩
  rw [IsFallback]
  cases hfallback : token.fallback? with
  | some text =>
      refine iff_of_true (value_of_fallback? h hfallback options) ?_
      cases token with
      | groupShortName | groupLongName | fileVersion => exact not_false
      | _ => cases hfallback
  | none =>
      have hvisible := token.isVisible_value_iff ctx options
      rw [hfallback, h] at hvisible
      rw [← Bool.not_eq_true, hvisible]
      simp

/-- A file of a group, a show and a source that are all unknown. -/
def unknownContext : NamingContext where
  file :=
    { id := 1, fileName := "a.mkv", hash := "aa", size := 10
      release := some { id := 9, group := some { id := 0, shortName := " " } } }
  episodes := [{ id := 10, showId := 0, number := 1 }]
  «show» := { id := 0 }

/-- A group without a visible name has the fallback. -/
theorem isFallback_value_of_absent_group :
    groupShortName.isPresent unknownContext = false ∧
      ¬ groupShortName.SpellsUnknown unknownContext ∧
      groupShortName.IsFallback (groupShortName.value unknownContext {}) := by
  have habsent : groupShortName.isPresent unknownContext = false := by decide
  have hspells : ¬ groupShortName.SpellsUnknown unknownContext := not_false
  exact ⟨habsent, hspells, (isFallback_value_of_absent_iff habsent {}).1.2 hspells⟩

/-- The file lacks four tokens that stand in its name all the same. -/
theorem not_isFallback_value_unknown :
    (∀ token ∈ [episodeCount, source, showId, groupId],
      token.isPresent unknownContext = false ∧
        token.value unknownContext {} = token.unknownText) ∧
      ¬ ∀ (token : Token) (ctx : NamingContext) (options : NamingOptions),
        token.isPresent ctx = false → token.IsFallback (token.value ctx options) := by
  have hwritten : ∀ token ∈ [episodeCount, source, showId, groupId],
      token.isPresent unknownContext = false ∧
        token.value unknownContext {} = token.unknownText := by
    decide +kernel
  refine ⟨hwritten, fun hfallback => ?_⟩
  obtain ⟨habsent, hvalue⟩ := hwritten source (by decide)
  have hblank : Text.isVisible (source.value unknownContext {}) = false :=
    hfallback source unknownContext {} habsent
  rw [hvalue] at hblank
  exact absurd hblank (by decide)

end Token

end MediaShelf
