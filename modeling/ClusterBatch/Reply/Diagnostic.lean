import ClusterBatch.Reply.Basic
import ClusterBatch.Text.Quoted

/-!
# Replies in diagnostic output

The text that an error message shows for a reply that does not fit: the kind of the reply and
what it holds, in brackets.
-/

namespace ClusterBatch

namespace Reply

/-- A kind of reply with its contents in parentheses. -/
def labelled (label contents : String) : String := label ++ "(" ++ contents ++ ")"

def bracketed (texts : List String) : String := "[" ++ ", ".intercalate texts ++ "]"

mutual

/-- A reply as a message shows it. -/
def diagnostic : Reply → String
  | .simple text => labelled "SimpleString" (Text.quoteOctets text)
  | .error line => labelled "Error" (Text.quoteOctets line)
  | .integer value => labelled "Integer" (toString value.toInt)
  | .bulk data => labelled "BulkString" (Text.quoteOctets data)
  | .null => "Null"
  | .array items => labelled "Array" (bracketed (diagnosticItems items))
  | .boolean value => labelled "Boolean" (if value then "true" else "false")
  | .double value => labelled "Double" (String.ofList value.diagnosticText)
  | .bigNumber text => labelled "BigNumber" (Text.quoteOctets text)
  | .bulkError message => labelled "BulkError" (Text.quoteOctets message)
  | .verbatim format data =>
    "VerbatimString \x7b format: "
      ++ bracketed (format.toList.map fun b => toString b.toNat)
      ++ ", data: " ++ Text.quoteOctets data ++ " \x7d"
  | .map entries => labelled "Map" (bracketed (diagnosticEntries entries))
  | .set items => labelled "Set" (bracketed (diagnosticItems items))
  | .push items => labelled "Push" (bracketed (diagnosticItems items))

def diagnosticItems : List Reply → List String
  | [] => []
  | item :: items => diagnostic item :: diagnosticItems items

def diagnosticEntries : List (Reply × Reply) → List String
  | [] => []
  | (key, value) :: entries =>
    ("(" ++ diagnostic key ++ ", " ++ diagnostic value ++ ")") :: diagnosticEntries entries

end

end Reply

end ClusterBatch
