import MediaShelf.Text.Blank
import MediaShelf.Text.CaseMap

/-!
# Kinds and their spellings

The catalog classifies shows, episodes, releases and titles. Three of the four classifications are
also written by people, who spell them freely: case, blanks around the word, and the separators
`/`, `-`, `_` and space inside it carry no meaning. A spelling is first reduced to what is left of
it and then looked up among the accepted words, of which several may name one kind. Each kind has
one canonical text, and its reduction is among the accepted words.
-/

namespace MediaShelf

/-- A spelling that names no kind. -/
structure SpellingError where
  /-- What was to be read. -/
  field : String
  /-- The text as it was given. -/
  value : String
deriving DecidableEq

/-- What the user is told about a spelling that names no kind. -/
def SpellingError.message (error : SpellingError) : String :=
  "failed to parse field '" ++ error.field ++ "', found value: " ++ error.value

/-- The characters that separate the words of a spelling. -/
def isSeparator (c : Char) : Bool :=
  c == '/' || c == '-' || c == '_' || c == ' '

/-- A spelling without the blanks around it, in small letters and without separators. -/
def reducedSpelling (s : String) : List Char :=
  (Text.lowerFrom [] (Text.trim s.toList)).filter fun c => !isSeparator c

/-- Looks a spelling up among the accepted words. -/
def readSpelling {α : Type} (field : String) (words : List (String × α)) (s : String) :
    Except SpellingError α :=
  match words.find? fun word => word.1.toList == reducedSpelling s with
  | some word => .ok word.2
  | none => .error ⟨field, s⟩

/-- The medium that a release was made from. -/
inductive Source where
  | unknown
  | tv
  | dvd
  | bluRay
  /-- A web stream or download. -/
  | web
  | vhs
  | vcd
  | laserDisc
  /-- A camera in a cinema. -/
  | camcorder
  | other
deriving DecidableEq, Inhabited

namespace Source

/-- The canonical text of a source. -/
def text : Source → String
  | unknown => "unknown"
  | tv => "TV"
  | dvd => "DVD"
  | bluRay => "Blu-ray"
  | web => "www"
  | vhs => "VHS"
  | vcd => "VCD"
  | laserDisc => "LD"
  | camcorder => "camcorder"
  | other => "other"

/-- The words accepted for sources. -/
def words : List (String × Source) := [
  ("", unknown), ("unknown", unknown), ("tv", tv), ("dvd", dvd), ("bluray", bluRay),
  ("bd", bluRay), ("hddvd", bluRay), ("www", web), ("web", web), ("vhs", vhs), ("vcd", vcd),
  ("svcd", vcd), ("ld", laserDisc), ("laserdisc", laserDisc), ("camcorder", camcorder),
  ("cam", camcorder), ("other", other)]

/-- Reads a spelling of a source. -/
def read (s : String) : Except SpellingError Source :=
  readSpelling "source" words s

end Source

/-- The format in which a show was published. -/
inductive ShowKind where
  | unknown
  | tv
  /-- A series published on video. -/
  | ova
  | movie
  | tvSpecial
  /-- A series published on the web. -/
  | web
  | other
deriving DecidableEq, Inhabited

namespace ShowKind

/-- The canonical text of a kind of show. -/
def text : ShowKind → String
  | unknown => "unknown"
  | tv => "TV"
  | ova => "OVA"
  | movie => "Movie"
  | tvSpecial => "TV Special"
  | web => "Web"
  | other => "Other"

/-- The words accepted for kinds of shows. -/
def words : List (String × ShowKind) := [
  ("", unknown), ("unknown", unknown), ("tv", tv), ("tvseries", tv), ("ova", ova),
  ("movie", movie), ("tvspecial", tvSpecial), ("special", tvSpecial), ("web", web), ("ona", web),
  ("other", other)]

/-- Reads a spelling of a kind of show. -/
def read (s : String) : Except SpellingError ShowKind :=
  readSpelling "show kind" words s

end ShowKind

/-- The part that an episode plays in its show. Episodes are numbered within their kind. -/
inductive EpisodeKind where
  /-- An episode of the story. -/
  | normal
  | special
  | credit
  /-- An advertisement for the show. -/
  | trailer
  /-- A parody of the show. -/
  | parody
  | other
deriving DecidableEq, Inhabited

namespace EpisodeKind

/-- The canonical text of a kind of episode. -/
def text : EpisodeKind → String
  | normal => "Normal"
  | special => "Special"
  | credit => "Credit"
  | trailer => "Trailer"
  | parody => "Parody"
  | other => "Other"

/-- The letter by which scripts ask for a kind. -/
def code : EpisodeKind → Char
  | normal => 'E'
  | special => 'S'
  | credit => 'C'
  | trailer => 'T'
  | parody => 'P'
  | other => 'O'

/-- What stands in front of an episode's number to tell its kind; nothing for normal episodes. -/
def numberMark : EpisodeKind → String
  | normal => ""
  | special => "S"
  | credit => "C"
  | trailer => "T"
  | parody => "P"
  | other => "O"

/-- The words accepted for kinds of episodes. -/
def words : List (String × EpisodeKind) := [
  ("e", normal), ("normal", normal), ("episode", normal), ("s", special), ("special", special),
  ("c", credit), ("credit", credit), ("credits", credit), ("t", trailer), ("trailer", trailer),
  ("p", parody), ("parody", parody), ("o", other), ("other", other)]

/-- Reads a spelling of a kind of episode. -/
def read (s : String) : Except SpellingError EpisodeKind :=
  readSpelling "episode kind" words s

end EpisodeKind

/-- The standing of a title. These are never spelled by people, so each has one text only. -/
inductive TitleKind where
  | main
  /-- An official title in some language. -/
  | official
  | synonym
  | short
deriving DecidableEq, Inhabited

namespace TitleKind

/-- The text of a kind of title. -/
def text : TitleKind → String
  | main => "main"
  | official => "official"
  | synonym => "synonym"
  | short => "short"

/-- All kinds of titles. -/
def all : List TitleKind :=
  [main, official, synonym, short]

/-- The kind with exactly this text. -/
def ofText? (s : String) : Option TitleKind :=
  all.find? fun kind => kind.text == s

end TitleKind

end MediaShelf
