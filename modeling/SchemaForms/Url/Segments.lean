import SchemaForms.Url.Percent

/-!
# Url/Segments — walking along a path

A path is a list of segments, each after a slash.  It is read as a walk: a segment that is a dot stays
where it is, two dots go up, and any other segment is entered.  Nothing goes up from a drive, a letter
with a colon or a bar.  The path of a file begins with a drive in one spelling only, and then there is
no host; nor does it begin with empty segments.
-/

namespace SchemaForms.Url

/-- A segment of a path, encoded. -/
abbrev Segment := List Char

/-- Tabs and line breaks, which a URL never holds. -/
def isDropped (c : Char) : Bool := c = '\t' || c = '\n' || c = '\r'

/-- The characters of a text that count. -/
def kept (text : List Char) : List Char := text.filter fun c => !isDropped c

/-! ## Drives -/

/-- A letter of ASCII. -/
def isLetter (c : Char) : Bool := c.isAlpha

/-- Whether a text begins with a drive. -/
def beginsWithDrive : List Char → Bool
  | a :: b :: rest =>
    isLetter a && (b = ':' || b = '|') &&
      rest.head?.all fun c => c = '/' || c = '\\' || c = '?' || c = '#'
  | _ => false

/-- Whether a text is a drive. -/
def isDrive (text : List Char) : Bool := beginsWithDrive text && text.length == 2

/-- A drive in its one spelling. -/
def driveName (drive : List Char) : Segment := drive.take 1 ++ [':']

/-! ## Moves -/

/-- What a segment asks for. -/
inductive Move where
  | stay
  | up
  | enter (segment : Segment)
  /-- Two segments at once: a drive, and what a dropped character parts from it. -/
  | enterBehind (drive segment : Segment)
  deriving DecidableEq

/-- A segment with encoded dots as dots. -/
def plainDots : List Char → List Char
  | '%' :: '2' :: c :: rest =>
    if c = 'e' ∨ c = 'E' then '.' :: plainDots rest else '%' :: '2' :: plainDots (c :: rest)
  | c :: rest => c :: plainDots rest
  | [] => []

/-- What an encoded segment asks for. -/
def Move.ofSegment (segment : Segment) : Move :=
  if plainDots segment = ['.'] then .stay
  else if plainDots segment = ['.', '.'] then .up
  else .enter segment

/-- Whether a dropped character follows the first colon. -/
def isParted (text : List Char) : Bool :=
  ((text.dropWhile (· ≠ ':')).drop 1).head?.any isDropped

/-- What a text asks for that becomes a segment; `atRoot` at the beginning of the path of a file. -/
def Move.ofText (atRoot : Bool) (mustEncode : Char → Bool) (text : List Char) : Move :=
  let segment := Percent.encode mustEncode (kept text)
  match kept text with
  | a :: ':' :: c :: rest =>
    if atRoot && isLetter a && isParted text then
      .enterBehind [a, ':'] (Percent.encode mustEncode (c :: rest))
    else .ofSegment segment
  | _ => .ofSegment segment

/-! ## Walks -/

/-- How far a walk has come. -/
structure Walk where
  /-- The segments entered and not left, the last one first. -/
  behind : List Segment
  /-- Whether the path of a file began with a drive. -/
  onDrive : Bool
  deriving DecidableEq

namespace Walk

/-- Before the first segment. -/
def start : Walk := ⟨[], false⟩

/-- The walk that leads to a path. -/
def ofPath (path : List Segment) : Walk := ⟨path.reverse, false⟩

/-- One segment up, unless that is a drive. -/
def leave : List Segment → List Segment
  | [] => []
  | last :: behind => if beginsWithDrive last then last :: behind else behind

/-- Makes a move. -/
def follow (isFile : Bool) (walk : Walk) : Move → Walk
  | .stay => walk
  | .up => { walk with behind := leave walk.behind }
  | .enter segment =>
    if isFile && walk.behind.isEmpty && isDrive segment then ⟨[driveName segment], true⟩
    else { walk with behind := segment :: walk.behind }
  | .enterBehind drive segment => { walk with behind := segment :: drive :: walk.behind }

/-- Makes the last move: where nothing is entered, the path ends in a slash. -/
def arrive (isFile : Bool) (walk : Walk) (move : Move) : Walk :=
  let walk := walk.follow isFile move
  match move with
  | .stay | .up => { walk with behind := [] :: walk.behind }
  | .enter _ | .enterBehind _ _ => walk

/-- The move that a text asks for at this point of a walk. -/
def moveOf (isFile : Bool) (mustEncode : Char → Bool) (walk : Walk) (text : List Char) : Move :=
  .ofText (isFile && walk.behind.isEmpty) mustEncode text

/-- Walks along the texts of segments. -/
def along (isFile : Bool) (walk : Walk) : List (List Char) → Walk
  | [] => walk
  | [last] => walk.arrive isFile (walk.moveOf isFile Percent.inPath last)
  | text :: rest => (walk.follow isFile (walk.moveOf isFile Percent.inPath text)).along isFile rest

/-- The path of a walk; that of a file does not begin with empty segments. -/
def path (isFile : Bool) (walk : Walk) : List Segment :=
  let segments := walk.behind.reverse
  if isFile then
    match segments.dropWhile List.isEmpty with
    | [] => [[]]
    | segments => segments
  else segments

end Walk

/-! ## Adding segments -/

/-- A path without its last segment, if that is empty and not the only one. -/
def dropEmptyLast (path : List Segment) : List Segment :=
  if 1 < path.length ∧ path.getLast? = some [] then path.dropLast else path

/-- A path to which segments can be added: one that consists of a slash alone has none. -/
def openPath (path : List Segment) : List Segment := if path = [[]] then [] else path

/-- Adds a segment to a path.  Dots alone are no segment; dots between dropped characters, however,
walk the path. -/
def addSegment (isFile special : Bool) (path : List Segment) (text : List Char) : List Segment :=
  if text = ['.'] ∨ text = ['.', '.'] then path
  else
    let walk := Walk.ofPath (openPath path)
    (walk.arrive isFile (walk.moveOf isFile (Percent.inSegment special) text)).path isFile

end SchemaForms.Url
