import MediaShelf.Script.Error
import MediaShelf.Text.Blank

/-!
# Tokens

A token is a name of three letters or digits for something about a file. Behind a `%` it is a
placeholder in a template, and a test asks whether the file has it. The case of the letters counts:
`%ed2` and `%ED2` are the same hash in small and in capital letters.
-/

namespace MediaShelf

/-- Something about a file that a script can name. -/
inductive Token where
  /-- The main title of the show. -/
  | showTitleMain
  /-- The official Japanese title of the show. -/
  | showTitleKanji
  /-- The official English title of the show. -/
  | showTitleEnglish
  /-- The romanized title of the episode. -/
  | episodeTitleRomaji
  /-- The English title of the episode. -/
  | episodeTitleEnglish
  /-- The number of the episode, or the range of the episodes. -/
  | episodeNumber
  /-- How many normal episodes the show has. -/
  | episodeCount
  /-- The abbreviated name of the release group. -/
  | groupShortName
  /-- The full name of the release group. -/
  | groupLongName
  /-- The content hash in small letters. -/
  | hashLower
  /-- The content hash in capital letters. -/
  | hashUpper
  /-- The checksum in small letters. -/
  | checksumLower
  /-- The checksum in capital letters. -/
  | checksumUpper
  /-- The edition of the release. -/
  | fileVersion
  /-- What the release was made from. -/
  | source
  /-- The width and the height of the pictures. -/
  | resolution
  /-- The codec of the pictures. -/
  | videoCodec
  /-- The codecs of the sound tracks. -/
  | audioCodec
  /-- The bits of one colour sample. -/
  | bitDepth
  | dubLanguages
  /-- The languages of the subtitles. -/
  | subLanguages
  /-- The year in which the show started. -/
  | year
  /-- The format of the show. -/
  | showKind
  /-- The id of the file. -/
  | fileId
  /-- The id of the show. -/
  | showId
  /-- The id of the first episode. -/
  | episodeId
  /-- The id of the release group. -/
  | groupId
  /-- The name the release was published under, without its extension. -/
  | originalFileName
  /-- A mark of censored releases. -/
  | censored
  /-- A mark of releases that a better edition has replaced. -/
  | deprecated
deriving DecidableEq

namespace Token

/-- All tokens. -/
def all : List Token := [
  showTitleMain, showTitleKanji, showTitleEnglish, episodeTitleRomaji, episodeTitleEnglish,
  episodeNumber, episodeCount, groupShortName, groupLongName, hashLower, hashUpper, checksumLower,
  checksumUpper, fileVersion, source, resolution, videoCodec, audioCodec, bitDepth, dubLanguages,
  subLanguages, year, showKind, fileId, showId, episodeId, groupId, originalFileName, censored,
  deprecated]

/-- The name of a token. -/
def name : Token → String
  | showTitleMain => "ann"
  | showTitleKanji => "kan"
  | showTitleEnglish => "eng"
  | episodeTitleRomaji => "epn"
  | episodeTitleEnglish => "epr"
  | episodeNumber => "enr"
  | episodeCount => "eps"
  | groupShortName => "grp"
  | groupLongName => "grl"
  | hashLower => "ed2"
  | hashUpper => "ED2"
  | checksumLower => "crc"
  | checksumUpper => "CRC"
  | fileVersion => "ver"
  | source => "src"
  | resolution => "res"
  | videoCodec => "vid"
  | audioCodec => "aud"
  | bitDepth => "bit"
  | dubLanguages => "dub"
  | subLanguages => "sub"
  | year => "yea"
  | showKind => "typ"
  | fileId => "fid"
  | showId => "aid"
  | episodeId => "eid"
  | groupId => "gid"
  | originalFileName => "sna"
  | censored => "cen"
  | deprecated => "dep"

/-- A token as it stands in a template. -/
def placeholder (token : Token) : String :=
  "%" ++ token.name

/-- The token with a name. -/
def named? (name : List Char) : Option Token :=
  all.find? fun token => token.name.toList == name

/-- Reads a token with or without its `%`, with blanks allowed around it. -/
def read (text : String) : Except ScriptError Token :=
  let name :=
    match Text.trim text.toList with
    | '%' :: rest => rest
    | name => name
  match named? name with
  | some token => .ok token
  | none => .error (.unknownToken text)

end Token

end MediaShelf
