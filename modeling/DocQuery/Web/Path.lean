import DocQuery.Web.Address

namespace DocQuery.Web

abbrev Segment := List Char

def isPathSpecial (c : Char) : Bool :=
  "\"#<>?\x60\x7b\x7d".toList.contains c

def isPathLiteral (c : Char) : Bool :=
  decide (0x20 < c.toNat ∧ c.toNat < 0x7F) && !isPathSpecial c

def isSegmentLiteral (c : Char) : Bool :=
  isPathLiteral c && c != '/' && c != '%' && c != '\\'

/-- Line ends and tabs do not count wherever they stand in a URL. -/
def isIgnored (c : Char) : Bool :=
  c == '\t' || c == '\n' || c == '\r'

def plainDots : Segment → Segment
  | [] => []
  | '%' :: '2' :: 'e' :: cs | '%' :: '2' :: 'E' :: cs => '.' :: plainDots cs
  | c :: cs => c :: plainDots cs

def isHere (s : Segment) : Bool :=
  plainDots s == ['.']

def isParent (s : Segment) : Bool :=
  plainDots s == ['.', '.']

/-- A letter with a colon or a bar. It is never left. -/
def isDrive : Segment → Bool
  | [a, b] => a.isAlpha && (b == ':' || b == '|')
  | _ => false

def parent (dirs : List Segment) : List Segment :=
  if dirs.getLast?.any isDrive then dirs else dirs.dropLast

def enter (dirs : List Segment) (s : Segment) : List Segment :=
  if isParent s then parent dirs else if isHere s then dirs else dirs ++ [s]

def finish (dirs : List Segment) (s : Segment) : List Segment :=
  if isParent s then parent dirs ++ [[]] else if isHere s then dirs ++ [[]] else dirs ++ [s]

def resolve (segments : List Segment) : List Segment :=
  finish (segments.dropLast.foldl enter []) (segments.getLast?.getD [])

def pathText (path : List Segment) : List Char :=
  path.flatMap ('/' :: ·)

/-- The place of a slash at the end of a path counts as free, and so does the root. -/
def freePlace (path : List Segment) : List Segment :=
  let path := if 1 < path.length ∧ path.getLast? = some [] then path.dropLast else path
  if path = [[]] then [] else path

/-- A path with one more segment, whatever its text. The two dotted names add none. -/
def pushSegment (path : List Segment) (name : List Char) : List Segment :=
  let free := freePlace path
  if name = ['.'] ∨ name = ['.', '.'] then if free.isEmpty then [[]] else free
  else finish free (percentEncode isSegmentLiteral (name.filter (!isIgnored ·)))

end DocQuery.Web
