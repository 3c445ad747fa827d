import MediaShelf.Script.TokenValue
import MediaShelf.Settings.Basic

/-!
# Titles of episodes

A title that is too long is cut, and an ellipsis takes the place of the last character that fits. So a
title that was cut is as long as it may be (`length_truncateTitle_of_lt`). The limit 0 is the one
exception, for there is no room in it for the ellipsis; settings with that limit are refused.

Cutting a title twice is cutting it to the smaller limit. The second cut removes the ellipsis of the
first one along with what stands in front of it, and writes an ellipsis of its own.
-/

namespace MediaShelf

/-! ## Cutting -/

section

variable {title : String} {limit a b : Nat}

theorem truncateTitle_of_le (h : title.toList.length ≤ limit) :
    truncateTitle title limit = title := if_pos h

theorem toList_truncateTitle_of_lt (h : limit < title.toList.length) :
    (truncateTitle title limit).toList = title.toList.take (limit - 1) ++ [ellipsis] := by
  rw [truncateTitle, if_neg (Nat.not_le.2 h), String.toList_ofList]

theorem length_truncateTitle_of_lt (h : limit < title.toList.length) :
    (truncateTitle title limit).toList.length = max limit 1 := by
  rw [toList_truncateTitle_of_lt h, List.length_append, List.length_take, List.length_singleton]
  omega

theorem length_truncateTitle_le (title : String) (hlimit : limit ≠ 0) :
    (truncateTitle title limit).toList.length ≤ limit := by
  rcases Nat.lt_or_ge limit title.toList.length with hlong | hshort
  · rw [length_truncateTitle_of_lt hlong]
    omega
  · rwa [truncateTitle_of_le hshort]

/-- A smaller limit cuts what a larger one has cut as it cuts the title itself. -/
theorem truncateTitle_truncateTitle (title : String) (h : b ≤ a) :
    truncateTitle (truncateTitle title a) b = truncateTitle title b := by
  rcases Nat.lt_or_ge a title.toList.length with hlong | hshort
  · rcases Nat.eq_or_lt_of_le h with rfl | hless
    · rcases Nat.eq_zero_or_pos b with rfl | hpos
      · -- What is left is the ellipsis, which is cut to an ellipsis again.
        have hcut : (truncateTitle title 0).toList = [ellipsis] :=
          toList_truncateTitle_of_lt hlong
        rw [← String.toList_inj, toList_truncateTitle_of_lt (by rw [hcut]; decide), hcut]
        rfl
      · exact truncateTitle_of_le (length_truncateTitle_le title (Nat.ne_of_gt hpos))
    · have hagain : b < (truncateTitle title a).toList.length := by
        rw [length_truncateTitle_of_lt hlong]
        omega
      have hkept : b - 1 ≤ (title.toList.take (a - 1)).length := by
        rw [List.length_take]
        omega
      rw [← String.toList_inj, toList_truncateTitle_of_lt hagain,
        toList_truncateTitle_of_lt (Nat.lt_trans hless hlong), toList_truncateTitle_of_lt hlong,
        List.take_append_of_le_length hkept, List.take_take, Nat.min_eq_left (by omega)]
  · rw [truncateTitle_of_le hshort]

end

/-! ## Titles in names -/

namespace Token

/-- The language in which a token shows the title of the first episode. -/
def titleLanguage? : Token → Option String
  | episodeTitleRomaji => some "x-jat"
  | episodeTitleEnglish => some "en"
  | _ => none

theorem value_of_titleLanguage? {token : Token} {language : String}
    (h : token.titleLanguage? = some language) (ctx : NamingContext) (options : NamingOptions) :
    token.value ctx options = ctx.episodeTitle options language := by
  cases token <;> cases h <;> rfl

end Token

/-- Under settings that are accepted, episode titles are no longer than the settings say, and only
those that do not fit are cut. Cutting to one limit and then to a smaller one is cutting to the
smaller one. -/
theorem episodeTitles_fit :
    (∀ (settings : Settings) (ctx : NamingContext) (token : Token) (language : String),
      settings.validate = .ok settings → token.titleLanguage? = some language →
      (token.value ctx settings.rename.options).toList.length ≤ settings.rename.titleLimit.toNat ∧
      match ctx.firstEpisode?.bind (·.title? language) with
      | none => token.value ctx settings.rename.options = ""
      | some title =>
        (title.toList.length ≤ settings.rename.titleLimit.toNat →
          token.value ctx settings.rename.options = title) ∧
        (settings.rename.titleLimit.toNat < title.toList.length →
          (token.value ctx settings.rename.options).toList =
            title.toList.take (settings.rename.titleLimit.toNat - 1) ++ ['…'])) ∧
    ∀ (title : String) (a b : Nat), b ≤ a →
      truncateTitle (truncateTitle title a) b = truncateTitle title b := by
  refine ⟨fun settings ctx token language haccepted htoken => ?_, fun title a b h =>
    truncateTitle_truncateTitle title h⟩
  obtain ⟨-, hlimit, -⟩ := Settings.validate_eq_ok_iff.1 haccepted
  have hlimit : settings.rename.titleLimit.toNat ≠ 0 := fun h => hlimit (UInt64.toNat_inj.1 h)
  rw [Token.value_of_titleLanguage? htoken, NamingContext.episodeTitle, RenameSettings.options]
  cases ctx.firstEpisode?.bind (·.title? language) with
  | none => exact ⟨Nat.zero_le _, rfl⟩
  | some title =>
      exact ⟨length_truncateTitle_le title hlimit, truncateTitle_of_le, toList_truncateTitle_of_lt⟩

/-- Settings with a limit of ten characters. -/
def tenCharacters : Settings where
  rename := { titleLimit := 10 }

/-- A file of an episode whose title in one language is too long for ten characters. -/
def longTitle : NamingContext where
  file := { id := 1, fileName := "a.mkv", hash := "aa", size := 10 }
  episodes := [{ id := 10, showId := 1, number := 1, titles := [
    { language := "en", value := "First dawn" },
    { language := "x-jat", value := "Saisho no yoake" }] }]
  «show» := { id := 1 }

theorem episodeTitles_fit_tenCharacters :
    tenCharacters.validate = .ok tenCharacters ∧
      Token.episodeTitleRomaji.titleLanguage? = some "x-jat" ∧
      Token.episodeTitleEnglish.titleLanguage? = some "en" ∧ 4 ≤ 10 ∧
      Token.episodeTitleRomaji.value longTitle tenCharacters.rename.options = "Saisho no…" ∧
      Token.episodeTitleEnglish.value longTitle tenCharacters.rename.options = "First dawn" ∧
      truncateTitle (truncateTitle "Saisho no yoake" 10) 4 = "Sai…" := by
  obtain ⟨hfit, htwice⟩ := episodeTitles_fit
  have haccepted : tenCharacters.validate = .ok tenCharacters := rfl
  have htitle : longTitle.firstEpisode?.bind (·.title? "x-jat") = some "Saisho no yoake" := by
    decide +kernel
  have hshort : longTitle.firstEpisode?.bind (·.title? "en") = some "First dawn" := by
    decide +kernel
  have hromaji := (hfit tenCharacters longTitle .episodeTitleRomaji "x-jat" haccepted rfl).2
  have henglish := (hfit tenCharacters longTitle .episodeTitleEnglish "en" haccepted rfl).2
  simp only [htitle] at hromaji
  simp only [hshort] at henglish
  refine ⟨haccepted, rfl, rfl, by decide, ?_, henglish.1 (by decide), ?_⟩
  · rw [← String.toList_inj, hromaji.2 (by decide)]
    decide
  · rw [htwice _ 10 4 (by decide)]
    decide

end MediaShelf
