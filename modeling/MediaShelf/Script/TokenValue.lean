import MediaShelf.Script.Context
import MediaShelf.Script.Token
import MediaShelf.Text.CaseMap
import MediaShelf.Text.Numeral

/-!
# What tokens stand for

Each token has a text for every file, and a file either has the token or lacks it. For most tokens
the two go together: what a file has shows as visible text, and what it lacks as nothing, apart
from the names of the release group and the edition, for which `Unknown` and `1` stand in. The
tokens that differ are lists and original names without anything visible in them, which a file has
all the same, and a zero or `unknown` in the catalog, which is written out although the file lacks
it.
-/

namespace MediaShelf

/-- The character that ends a title that was cut. -/
def ellipsis : Char := '…'

/-- Cuts a title to a number of characters, the last of which is then the ellipsis. -/
def truncateTitle (title : String) (limit : Nat) : String :=
  if title.toList.length ≤ limit then title
  else String.ofList (title.toList.take (limit - 1) ++ [ellipsis])

/-- How many digits a number has. -/
def digitCount (n : Nat) : Nat :=
  if n < 10 then 1 else digitCount (n / 10) + 1

/-- How many episodes of a kind a show has; only normal and special episodes are counted. -/
def Show.total (s : Show) : EpisodeKind → Nat
  | .normal => s.normalEpisodes.toNat
  | .special => s.specialEpisodes.toNat
  | _ => 1

/-- The number of an episode behind the mark of its kind, with as many digits as the show's total
of that kind has. -/
def episodeNumber (episode : Episode) (s : Show) : String :=
  episode.kind.numberMark
    ++ String.ofList (Text.paddedDigits (digitCount (s.total episode.kind)) episode.number.toNat)

/-- Several values in one name: the visible ones, trimmed, with `+` between them. -/
def joinVisible (values : List String) : String :=
  "+".intercalate ((values.filter Text.isVisible).map Text.trimmed)

/-- The name of a group; `Unknown` if it has no visible name. -/
def groupName (name : Option String) : String :=
  match name with
  | some name => if Text.isVisible name then Text.trimmed name else "Unknown"
  | none => "Unknown"

namespace NamingContext

/-- The first episode's title in a language, cut to the limit; empty if there is none. -/
def episodeTitle (ctx : NamingContext) (options : NamingOptions) (language : String) : String :=
  match ctx.firstEpisode?.bind (·.title? language) with
  | some title => truncateTitle title options.titleLimit
  | none => ""

/-- The number of the only episode, or the numbers of the first and the last one. -/
def episodeRange (ctx : NamingContext) : String :=
  match ctx.firstEpisode?, ctx.lastEpisode? with
  | some first, some last =>
    if first.id = last.id then episodeNumber first ctx.show
    else episodeNumber first ctx.show ++ "-" ++ episodeNumber last ctx.show
  | _, _ => ""

/-- The width and the height of the pictures, unless one of them is 0. -/
def resolution (ctx : NamingContext) : String :=
  match ctx.file.video with
  | some video =>
    if video.width = 0 ∨ video.height = 0 then ""
    else Text.ofNat video.width.toNat ++ "x" ++ Text.ofNat video.height.toNat
  | none => ""

end NamingContext

namespace Token

/-- The text that a token stands for. -/
def value (token : Token) (ctx : NamingContext) (options : NamingOptions) : String :=
  let file := ctx.file
  match token with
  | showTitleMain => ctx.show.mainTitle?.getD ""
  | showTitleKanji => (ctx.show.officialTitle? "ja").getD ""
  | showTitleEnglish => (ctx.show.officialTitle? "en").getD ""
  | episodeTitleRomaji => ctx.episodeTitle options "x-jat"
  | episodeTitleEnglish => ctx.episodeTitle options "en"
  | episodeNumber => ctx.episodeRange
  | episodeCount => Text.ofNat ctx.show.normalEpisodes.toNat
  | groupShortName => groupName (ctx.group?.map (·.shortName))
  | groupLongName => groupName (ctx.group?.map (·.longName))
  | hashLower => Text.lowerText file.hash
  | hashUpper => Text.upperText file.hash
  | checksumLower => Text.lowerText (file.crc32.getD "")
  | checksumUpper => Text.upperText (file.crc32.getD "")
  | fileVersion =>
    match file.release with
    | some release => Text.ofNat release.version.toNat
    | none => "1"
  | source => (file.release.map (·.source.text)).getD ""
  | resolution => ctx.resolution
  | videoCodec => (file.video.bind (·.codec)).getD ""
  | audioCodec => joinVisible file.audioCodecs
  | bitDepth => ((file.video.bind (·.bitDepth)).map fun depth => Text.ofNat depth.toNat).getD ""
  | dubLanguages => joinVisible file.audioTracks
  | subLanguages => joinVisible file.subtitleTracks
  | year => (ctx.show.airDate.map fun date => Text.ofInt date.year).getD ""
  | showKind => if ctx.show.kind = .unknown then "" else ctx.show.kind.text
  | fileId => Text.ofNat file.id.toNat
  | showId => Text.ofNat ctx.show.id.toNat
  | episodeId => (ctx.firstEpisode?.map fun episode => Text.ofNat episode.id.toNat).getD ""
  | groupId => (ctx.group?.map fun group => Text.ofNat group.id.toNat).getD ""
  | originalFileName =>
    ((file.release.bind (·.originalFileName)).bind fun name => (Path.mk name).stem?).getD ""
  | censored => if file.release.any (·.censored) then "cen" else ""
  | deprecated => if file.release.any (·.deprecated) then "depr" else ""

/-- Whether a file has what a token stands for. -/
def isPresent (token : Token) (ctx : NamingContext) : Bool :=
  let file := ctx.file
  match token with
  | showTitleMain => ctx.show.mainTitle?.any Text.isVisible
  | showTitleKanji => (ctx.show.officialTitle? "ja").any Text.isVisible
  | showTitleEnglish => (ctx.show.officialTitle? "en").any Text.isVisible
  | episodeTitleRomaji => (ctx.firstEpisode?.bind (·.title? "x-jat")).any Text.isVisible
  | episodeTitleEnglish => (ctx.firstEpisode?.bind (·.title? "en")).any Text.isVisible
  | episodeNumber | episodeId => ctx.firstEpisode?.isSome
  | episodeCount => 0 < ctx.show.normalEpisodes
  | groupShortName => ctx.group?.any fun group => Text.isVisible group.shortName
  | groupLongName => ctx.group?.any fun group => Text.isVisible group.longName
  | groupId => ctx.group?.any fun group => group.id != 0
  | hashLower | hashUpper => Text.isVisible file.hash
  | checksumLower | checksumUpper => file.crc32.any Text.isVisible
  | fileVersion => file.release.isSome
  | source => file.release.any fun release => release.source != .unknown
  | resolution => file.video.any fun video => 0 < video.width && 0 < video.height
  | videoCodec => (file.video.bind (·.codec)).any Text.isVisible
  | audioCodec => !file.audioCodecs.isEmpty
  | bitDepth => (file.video.bind (·.bitDepth)).isSome
  | dubLanguages => !file.audioTracks.isEmpty
  | subLanguages => !file.subtitleTracks.isEmpty
  | year => ctx.show.airDate.isSome
  | showKind => ctx.show.kind != .unknown
  | fileId => true
  | showId => ctx.show.id != 0
  | originalFileName => (file.release.bind (·.originalFileName)).any Text.isVisible
  | censored => file.release.any (·.censored)
  | deprecated => file.release.any (·.deprecated)

end Token

end MediaShelf
