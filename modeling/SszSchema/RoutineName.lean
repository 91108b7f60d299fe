import SszSchema.Text.Blank
import SszSchema.Text.Letters
import SszSchema.Text.LowerCase

/-!
# Names of generated routines

Every record has four public routines, named after the record in lower case with words joined by
low lines: `BeaconBlockHeader` becomes `beacon_block_header`, `HTTPRequest` becomes
`http_request`. `publicNames` lists the four.
-/

namespace SszSchema

namespace RoutineName

/-- Whether a word begins at an upper-case letter between the given neighbours. -/
def beginsWord (before : Char) (after : Option Char) : Bool :=
  Text.isLowerCase before || Text.isDigit before ||
    (Text.isUpperCase before && after.any Text.isLowerCase)

/-- Lower case with a low line before each word; what is no letter or numeral becomes a low
line. -/
def words (before : Option Char) : List Char → List Char
  | [] => []
  | c :: rest =>
      (if !Text.isAlphanumeric c then ['_']
       else
        (if Text.isUpperCase c && before.any (beginsWord · rest.head?) then ['_'] else []) ++
          Text.lowerCase c) ++ words (some c) rest

/-- Joins runs of low lines into one. -/
def squeeze : List Char → List Char
  | '_' :: '_' :: rest => squeeze ('_' :: rest)
  | c :: rest => c :: squeeze rest
  | [] => []

/-- A record name in lower case with words joined by single low lines. -/
def snakeChars (cs : List Char) : List Char :=
  let name := squeeze (Text.stripWhile (· = '_') (words none cs))
  match name with
  | [] => "record".toList
  | c :: _ => if Text.isDigit c then '_' :: name else name

/-- A record name in lower case with words joined by single low lines. -/
def snake (record : String) : String := String.ofList (snakeChars record.toList)

/-- The routine that measures a record. -/
def size (record : String) : String := "size_" ++ snake record

/-- The routine that encodes a record. -/
def marshal (record : String) : String := "marshal_" ++ snake record

/-- The routine that appends the encoding of a record to a buffer. -/
def marshalTo (record : String) : String := "marshal_" ++ snake record ++ "_to"

/-- The routine that decodes a record. -/
def unmarshal (record : String) : String := "unmarshal_" ++ snake record

/-- The local variable that holds a decoded field; the low line keeps it clear of record names. -/
def fieldLocal (field : String) : String := "_v_" ++ field

end RoutineName

/-- The four routines of a record, in the order they are exported. -/
def publicNames (record : String) : List String :=
  [RoutineName.marshal record, RoutineName.marshalTo record, RoutineName.unmarshal record,
    RoutineName.size record]

end SszSchema
