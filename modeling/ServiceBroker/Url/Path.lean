import ServiceBroker.Url.Basic

/-!
# Paths of URLs

A path is a list of segments. A segment of one dot stands for nothing, and one of two dots takes
back the segment before it.

## Main definitions

* `Url.Path.normalize`: the path of a list of segments
* `Url.Path.ofText`: the path that a text spells after its leading slash
-/

namespace ServiceBroker.Url.Path

/-- The segment is a dot, perhaps percent-encoded. -/
def isDot (cs : List Char) : Bool :=
  match cs with
  | ['.'] | ['%', '2', 'e'] | ['%', '2', 'E'] => true
  | _ => false

/-- The segment is two dots, each perhaps percent-encoded. -/
def isTwoDots (cs : List Char) : Bool :=
  match cs with
  | '.' :: rest => isDot rest
  | '%' :: '2' :: 'e' :: rest | '%' :: '2' :: 'E' :: rest => isDot rest
  | _ => false

/-- The segment starts like a drive letter, which two dots do not take back. -/
def isDrive (cs : List Char) : Bool :=
  match cs with
  | letter :: mark :: rest =>
    letter.isAlpha && (mark == ':' || mark == '|') && (rest.isEmpty || rest.head? == some '\\')
  | _ => false

/-- The segments that are left when two dots follow `taken`, the latest first. -/
def back : List (List Char) → List (List Char)
  | [] => []
  | segment :: earlier => if isDrive segment then segment :: earlier else earlier

/-- Segments that slashes follow, the latest first, as a path that ends in a slash. -/
def closed (taken : List (List Char)) : List Char :=
  taken.foldl (fun path segment => '/' :: (segment ++ path)) ['/']

/-- The path of a list of segments after the segments `taken`, the latest first. -/
def normalize (taken : List (List Char)) : List (List Char) → List Char
  | [] => closed taken
  | [last] =>
    if isTwoDots last then closed (back taken)
    else if isDot last then closed taken
    else closed taken ++ last
  | segment :: rest =>
    if isTwoDots segment then normalize (back taken) rest
    else if isDot segment then normalize taken rest
    else normalize (segment :: taken) rest

/-- The character ends a segment; on the web a backslash does too. -/
def endsSegment (web : Bool) (c : Char) : Bool := c == '/' || (web && c == '\\')

/-- The path that a text spells after its leading slash. -/
def ofText (web : Bool) (text : List Char) : List Char :=
  normalize [] ((splitAt (endsSegment web) text).map (Percent.encode inPathSet))

end ServiceBroker.Url.Path
