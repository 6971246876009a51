import Gleaner.Json.Reader
import Gleaner.Platform
import Gleaner.Text.Quoted

/-!
# What can go wrong

A program that gathers material meets values of the wrong kind, pages that cannot be fetched and
files that cannot be written.  A fault is the cause; `Fault.message` is what is shown for it.

* `Kind` — the kinds of values, by the names that messages use.
* `Transport` — failures of a request, and the classes they belong to.
* `Fault` — the causes.
* `Fault.message` — their wording.
* `Fault.isRequest`, `Fault.isConnection` — the classes that callers recover from.
-/

namespace Gleaner

/-- The kinds of values. -/
inductive Kind where
  | null
  | bool
  | int
  | float
  | str
  | list
  | dict
  | element
  deriving DecidableEq, Repr

/-- The name of a kind in messages. -/
def Kind.label : Kind → Text
  | .null => "NoneType"
  | .bool => "bool"
  | .int => "int"
  | .float => "float"
  | .str => "str"
  | .list => "list"
  | .dict => "dict"
  | .element => "Tag"

/-- Failures of a request.  The first five are failures of the exchange itself; the others come from
below it. -/
inductive Transport where
  | general
  | connection
  | timeout
  | protocol
  | connectTimeout
  | value
  | runtime
  | key
  | system
  deriving DecidableEq, Repr

/-- A failure of the exchange itself. -/
def Transport.isRequest : Transport → Bool
  | .general | .connection | .timeout | .protocol | .connectTimeout => true
  | _ => false

/-- A failure to connect. -/
def Transport.isConnection : Transport → Bool
  | .connection | .connectTimeout => true
  | _ => false

/-- The causes of failure. -/
inductive Fault where
  /-- A value of this kind has no such member. -/
  | noMember (kind : Kind) (member : Text)
  /-- A value of this kind has no length. -/
  | noLength (kind : Kind)
  /-- A value of this kind has no items to go through. -/
  | notIterable (kind : Kind)
  /-- A value of this kind cannot be asked for a part by name. -/
  | notSubscriptable (kind : Kind)
  /-- A text cannot be asked for a part by name. -/
  | textIndex
  /-- A list cannot be asked for a part by name. -/
  | listIndex
  /-- An object cannot be cut. -/
  | objectSlice
  /-- A text was needed for a search. -/
  | notText (kind : Kind)
  /-- A text was needed to read a value from. -/
  | notJsonText (kind : Kind)
  /-- A text was needed to write to a file. -/
  | notWritable (kind : Kind)
  /-- An object has no member of this name. -/
  | missingKey (name : Text)
  /-- A value of this kind has no form with a fixed number of digits. -/
  | noDigits (kind : Kind)
  /-- A value of this kind has no forms to choose from. -/
  | noFormat (kind : Kind)
  /-- A numeral has more digits than are read. -/
  | longInteger (digits : Nat)
  /-- A text is no JSON text. -/
  | malformedJson (problem : Json.Problem) (line column position : Nat)
  /-- The values of a JSON text lie too deep inside each other. -/
  | deepJson (nest : Json.Nest)
  /-- Values lie too deep inside each other to be written. -/
  | deepValue
  /-- A reply has a status that stands for an error. -/
  | badStatus (status : Int) (reason url : Text)
  /-- A request failed. -/
  | transport (cause : Transport) (message : Text)
  /-- A file or one of the folders above it does not exist. -/
  | noSuchFile (path : Text)
  /-- The name of a file is too long. -/
  | longName (path : Text)
  /-- A folder stands where a file was wanted. -/
  | isFolder (path : Text)
  /-- A file stands where a folder was wanted. -/
  | notFolder (path : Text)
  /-- A file stands where a folder was to be made. -/
  | fileExists (path : Text)
  /-- A path has a character that no path can have. -/
  | embeddedNull
  /-- A text was written that no file can hold. -/
  | unencodable (notice : Text)
  /-- A list that another program makes is not there yet. -/
  | listMissing (notice : Text)
  /-- A page is refused as markup. -/
  | rejectedMarkup (reason : Text)
  /-- A page could not be rendered. -/
  | rendering
  /-- A browser failed. -/
  | browser (message : Text)
  /-- A value of this kind cannot be asked whether it holds another. -/
  | notContainer (kind : Kind)
  /-- A call gives other values than it should. -/
  | badCall (notice : Text)
  deriving DecidableEq, Repr

/-- The wording of a problem with a JSON text. -/
def Json.Problem.message : Json.Problem → Text
  | .noValue => "Expecting value"
  | .noName => "Expecting property name enclosed in double quotes"
  | .noColon => "Expecting ':' delimiter"
  | .noComma => "Expecting ',' delimiter"
  | .openString => "Unterminated string starting at"
  | .controlCharacter => "Invalid control character at"
  | .badEscape => "Invalid \\escape"
  | .badUnicodeEscape => "Invalid \\uXXXX escape"
  | .extraData => "Extra data"
  | .byteOrderMark => "Unexpected UTF-8 BOM (decode using utf-8-sig)"

/-- The word for a value that holds others. -/
def Json.Nest.label : Json.Nest → Text
  | .array => "array"
  | .object => "object"

namespace Fault

/-- A text of a message around the name of a kind. -/
def about (before : Text) (kind : Kind) (after : Text) : Text :=
  before ++ kind.label ++ after

/-- What is shown for a fault. -/
def message : Fault → Text
  | .noMember k m => about "'" k "' object has no attribute '" ++ m ++ "'"
  | .noLength k => about "object of type '" k "' has no len()"
  | .notIterable k => about "'" k "' object is not iterable"
  | .notSubscriptable k => about "'" k "' object is not subscriptable"
  | .textIndex => "string indices must be integers, not 'str'"
  | .listIndex => "list indices must be integers or slices, not str"
  | .objectSlice => "unhashable type: 'slice'"
  | .notText k => about "expected string or bytes-like object, got '" k "'"
  | .notJsonText k => about "the JSON object must be str, bytes or bytearray, not " k ""
  | .notWritable .null => "write() argument must be str, not None"
  | .notWritable k => about "write() argument must be str, not " k ""
  | .missingKey name => Text.quoted name
  | .noDigits k => about "Unknown format code 'd' for object of type '" k "'"
  | .noFormat k => about "unsupported format string passed to " k ".__format__"
  | .longInteger digits =>
      "Exceeds the limit (4300 digits) for integer string conversion: value has "
        ++ Text.ofNat digits
        ++ " digits; use sys.set_int_max_str_digits() to increase the limit"
  | .malformedJson p line column position =>
      p.message ++ ": line " ++ Text.ofNat line ++ " column " ++ Text.ofNat column ++ " (char "
        ++ Text.ofNat position ++ ")"
  | .deepJson n =>
      Text.cat ["maximum recursion depth exceeded while decoding a JSON ", n.label,
        " from a unicode string"]
  | .deepValue => "maximum recursion depth exceeded"
  | .badStatus status reason url =>
      Text.ofInt status ++ (if status < 500 then " Client Error: " else " Server Error: ") ++ reason
        ++ " for url: " ++ url
  | .transport .key m => Text.quoted m
  | .transport _ m => m
  | .noSuchFile path => "[Errno 2] No such file or directory: " ++ Text.quoted path
  | .longName path => "[Errno 36] File name too long: " ++ Text.quoted path
  | .isFolder path => "[Errno 21] Is a directory: " ++ Text.quoted path
  | .notFolder path => "[Errno 20] Not a directory: " ++ Text.quoted path
  | .fileExists path => "[Errno 17] File exists: " ++ Text.quoted path
  | .embeddedNull => "embedded null byte"
  | .unencodable notice => notice
  | .listMissing notice => notice
  | .rejectedMarkup reason =>
      "The markup you provided was rejected by the parser. Trying a different parser or a "
        ++ "different encoding may help.\n\nOriginal exception(s) from parser:\n AssertionError: "
        ++ reason
  | .rendering => "render failed"
  | .browser m => m
  | .notContainer k => about "argument of type '" k "' is not iterable"
  | .badCall notice => notice

/-- A failure of a request or a reply that stands for one. -/
def isRequest : Fault → Bool
  | .transport cause _ => cause.isRequest
  | .badStatus .. => true
  | _ => false

/-- A failure to connect. -/
def isConnection : Fault → Bool
  | .transport cause _ => cause.isConnection
  | _ => false

/-- The line and column of a position in a text, both counted from one. -/
def lineColumn (t : Text) (position : Nat) : Nat × Nat :=
  let before := t.take position
  (before.count '\n' + 1, (before.reverse.takeWhile (· != '\n')).length + 1)

/-- The fault of a refused JSON text. -/
def ofRefusal (t : Text) : Json.Refusal → Fault
  | .longInteger digits => .longInteger digits
  | .tooDeep n => .deepJson n
  | .problem p position =>
      let (line, column) := lineColumn t position
      .malformedJson p line column position

end Fault

section

variable [Platform]

/-- The dialect of pages and stored lists: the words for numbers that are not finite are taken, an
integer has at most as many digits as are read, and values lie no deeper than there is room. -/
def Json.lenient : Json.Dialect where
  nonFinite := true
  maxDigits := some Text.maxDigits
  maxDepth := some Platform.readRoom

/-- The value of a JSON text. -/
def Json.parse (t : Text) : Except Fault Json :=
  (Json.read Json.lenient t).mapError (Fault.ofRefusal t)

end

end Gleaner
