import MediaShelf.Script.Argument
import MediaShelf.Script.TokenValue

/-!
# Tests

A test is a letter with an argument, as in `A(5)`. Each letter asks for one thing about the file,
its episodes or its show. A test that cannot be judged, because its argument makes no sense or
because the file lacks the data, is false; `judge` says why, and `evaluate` keeps only the answer.

Tests of numbers compare with all operators. The other ones know equality only, and leave the
characters of an inequality to the value, which then matches nothing.
-/

namespace MediaShelf

/-- What a test asks for. -/
inductive Test where
  /-- The id of the show. -/
  | showId
  /-- The id of the release group; `unknown` is 0. -/
  | groupId
  | audioLanguage
  /-- A language of the subtitles; `none` asks for a file without subtitles. -/
  | subtitleLanguage
  /-- The edition of the release. -/
  | fileVersion
  /-- The bits of one colour sample. -/
  | bitDepth
  /-- The width of the pictures. -/
  | videoWidth
  /-- The height of the pictures. -/
  | videoHeight
  /-- What the release was made from. -/
  | source
  /-- The format of the show. -/
  | showKind
  /-- The year in which the show started. -/
  | year
  /-- The number of the first episode. -/
  | episodeNumber
  /-- The kind of the first episode, by its letter. -/
  | episodeKind
  /-- How many normal episodes the show has. -/
  | episodeCount
  /-- Whether the file has a token. -/
  | hasToken
  /-- Whether the user linked the file by hand. -/
  | manuallyLinked
  /-- Whether the file has episodes. -/
  | hasEpisodes
  /-- The codec of the pictures; reserved, and never true. -/
  | videoCodec
  /-- The codec of the sound; reserved, and never true. -/
  | audioCodec
deriving DecidableEq

namespace Test

/-- All tests. -/
def all : List Test := [
  showId, groupId, audioLanguage, subtitleLanguage, fileVersion, bitDepth, videoWidth, videoHeight,
  source, showKind, year, episodeNumber, episodeKind, episodeCount, hasToken, manuallyLinked,
  hasEpisodes, videoCodec, audioCodec]

/-- The letter of a test. -/
def letter : Test → Char
  | showId => 'A'
  | groupId => 'G'
  | audioLanguage => 'D'
  | subtitleLanguage => 'S'
  | fileVersion => 'F'
  | bitDepth => 'Z'
  | videoWidth => 'W'
  | videoHeight => 'U'
  | source => 'R'
  | showKind => 'T'
  | year => 'Y'
  | episodeNumber => 'E'
  | episodeKind => 'H'
  | episodeCount => 'X'
  | hasToken => 'I'
  | manuallyLinked => 'M'
  | hasEpisodes => 'N'
  | videoCodec => 'C'
  | audioCodec => 'J'

/-- The test with a letter in either case. -/
def ofLetter? (c : Char) : Option Test :=
  all.find? fun test => test.letter == c.toUpper

end Test

/-- A test with its argument. -/
structure Condition where
  test : Test
  /-- The text between the parentheses. -/
  argument : String
deriving DecidableEq

namespace Condition

/-- A condition as it stands in a script. -/
def text (condition : Condition) : String :=
  String.ofList (condition.test.letter :: '(' :: (condition.argument.toList ++ [')']))

/-- Data that a test needs, or the error that says what is missing. -/
def need {α : Type} (what : String) : Option α → Except ScriptError α
  | some a => .ok a
  | none => .error (.missingData what)

/-- The argument as an equality. -/
def equality (condition : Condition) : Argument :=
  .equality condition.argument.toList

/-- The argument as a comparison of numbers. -/
def relational (condition : Condition) : Argument :=
  .relational condition.argument.toList

/-- Whether one of several languages is the value of an argument. -/
def speaks (tracks : List String) (value : String) : Bool :=
  tracks.any fun track => Text.sameIgnoringCase (Text.trimmed track) value

/-- The id of a group that an argument names. -/
def namedGroup (argument : Argument) : Except ScriptError Int :=
  if Text.sameIgnoringCase argument.value "unknown" then .ok 0 else argument.number .long

/-- The letters of the kinds of episodes, and one more that no kind has. -/
def kindLetters : List Char := ['E', 'S', 'C', 'P', 'T', 'O', 'U']

/-- The letter of a kind of episode that an argument names. -/
def namedKind (argument : Argument) : Except ScriptError Char :=
  match argument.value.toList with
  | [c] =>
    if kindLetters.contains c.toUpper then .ok c.toUpper
    else .error (.invalidArgument argument.value)
  | _ => .error (.invalidArgument argument.value)

/-- A kind that an argument spells. -/
def spelled {α : Type} (read : String → Except SpellingError α) (argument : Argument) :
    Except ScriptError α :=
  match read argument.value with
  | .ok kind => .ok kind
  | .error _ => .error (.invalidArgument argument.value)

/-- Whether the user linked the file by hand. A file with episodes that was not recognized as any
release must have been. -/
def linkedByHand (ctx : NamingContext) : Bool :=
  ctx.file.manuallyLinked || (ctx.file.release.isNone && !ctx.episodes.isEmpty)

/-- Judges a condition, or tells why it cannot be judged. -/
def judge (condition : Condition) (ctx : NamingContext) : Except ScriptError Bool := do
  let file := ctx.file
  match condition.test with
  | .showId =>
    let expected ← condition.equality.number .long
    return condition.equality.holds (Int.ofNat ctx.show.id.toNat == expected)
  | .groupId =>
    let expected ← namedGroup condition.equality
    let actual := match file.release with
      | some release => release.groupId
      | none => 0
    return condition.equality.holds (Int.ofNat actual.toNat == expected)
  | .audioLanguage =>
    let release ← need "catalog file" file.release
    return condition.equality.holds (speaks release.audioLanguages condition.equality.value)
  | .subtitleLanguage =>
    let found :=
      if Text.sameIgnoringCase condition.equality.value "none" then file.subtitleTracks.isEmpty
      else speaks file.subtitleTracks condition.equality.value
    return condition.equality.holds found
  | .fileVersion =>
    let release ← need "catalog file" file.release
    condition.relational.compareNumber .word release.version.toNat
  | .bitDepth =>
    let depth ← need "video bit depth" (file.video.bind (·.bitDepth))
    condition.relational.compareNumber .byte depth.toNat
  | .videoWidth =>
    let video ← need "video stream" file.video
    condition.relational.compareNumber .word video.width.toNat
  | .videoHeight =>
    let video ← need "video stream" file.video
    condition.relational.compareNumber .word video.height.toNat
  | .source =>
    let expected ← spelled Source.read condition.equality
    let actual := match file.release with
      | some release => release.source
      | none => .unknown
    return condition.equality.holds (actual == expected)
  | .showKind =>
    let expected ← spelled ShowKind.read condition.equality
    return condition.equality.holds (ctx.show.kind == expected)
  | .year => condition.relational.compareNumber .signed ctx.show.year
  | .episodeNumber =>
    let episode ← need "episode" ctx.firstEpisode?
    condition.relational.compareNumber .word episode.number.toNat
  | .episodeKind =>
    let episode ← need "episode" ctx.firstEpisode?
    let expected ← namedKind condition.equality
    return condition.equality.holds (episode.kind.code == expected)
  | .episodeCount => condition.relational.compareNumber .word ctx.show.normalEpisodes.toNat
  | .hasToken =>
    let token ← Token.read condition.equality.value
    return condition.equality.holds (token.isPresent ctx)
  | .manuallyLinked => return condition.equality.holds (linkedByHand ctx)
  | .hasEpisodes => return condition.equality.holds !ctx.episodes.isEmpty
  | .videoCodec | .audioCodec => return false

/-- Whether a condition holds. One that cannot be judged does not. -/
def evaluate (condition : Condition) (ctx : NamingContext) : Bool :=
  match condition.judge ctx with
  | .ok answer => answer
  | .error _ => false

end Condition

end MediaShelf
