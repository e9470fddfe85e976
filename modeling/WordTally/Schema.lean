import WordTally.Json.Printer

set_option autoImplicit false

namespace WordTally

structure RecordSchema where
  name : String
  /-- Each field with its type. -/
  fields : List (String × String)
  deriving DecidableEq, Repr

namespace RecordSchema

def memberText (name value : String) : String :=
  Json.quotedString name ++ ":" ++ Json.quotedString value

def fieldText (field : String × String) : String :=
  "\x7b" ++ memberText "name" field.1 ++ "," ++ memberText "type" field.2 ++ "\x7d"

/-- A schema as it is registered: its kind first, then its name, then its fields. -/
def text (schema : RecordSchema) : String :=
  "\x7b" ++ memberText "type" "record" ++ "," ++ memberText "name" schema.name ++ "," ++
    Json.quotedString "fields" ++ ":[" ++ ",".intercalate (schema.fields.map fieldText) ++ "]\x7d"

def words : RecordSchema := ⟨"Words", [("words", "string")]⟩

def wordCount : RecordSchema := ⟨"WordCount", [("word", "string"), ("count", "long")]⟩

end RecordSchema

end WordTally
