import Phrasebook.Catalog.Flat
import Phrasebook.Document
import Phrasebook.Properties

/-!
Catalog files. The suffix of its name says how a file is read: properties, JSON or YAML. Anything but
readable text in that format, with a map at the top, is a format issue.
-/

namespace Phrasebook.Catalog

def formatIssue (path : Path) (bundle : Option String) (reason : FormatReason) : Failure :=
  .issue (.catalogFormat path.text reason bundle)

def readFailure (path : Path) (bundle : Option String) : FileTree.ReadFault → Failure
  | .file .nullCharacter => .breach .value
  | .file fault => formatIssue path bundle (.file fault path.text)
  | .decoding fault => formatIssue path bundle (.decoding fault)

def documentFailure (path : Path) (bundle : Option String) : Document.Fault → Failure
  | .json text => formatIssue path bundle (.json text)
  | .breach breach => .breach breach
  | _ => formatIssue path bundle .yaml

def isBlankText (text : String) : Bool := text.toList.all Text.isBlank

def readStructured (path : Path) (bundle : Option String) (suffix text : String) :
    Except Failure Value :=
  if suffix = ".json" then
    if isBlankText text then .ok (.map [])
    else (Document.readJson text).mapError (documentFailure path bundle)
  else if suffix = ".yaml" || suffix = ".yml" then
    (Document.readYamlOrEmpty text).mapError (documentFailure path bundle)
  else .error (formatIssue path bundle (.unsupported suffix))

def readText (path : Path) (bundle : Option String) (suffix text : String) :
    Except Failure (OrderedMap String String) :=
  if suffix = ".properties" then .ok (Properties.parse text)
  else
    match readStructured path bundle suffix text with
    | .error failure => .error failure
    | .ok (.map entries) => (flatten entries).mapError .breach
    | .ok _ => .error (formatIssue path bundle .notMapping)

def messagesOfFile (tree : FileTree) (path : Path) (bundle : Option String) :
    Except Failure (OrderedMap String String) :=
  match tree.readText path with
  | .error fault => .error (readFailure path bundle fault)
  | .ok text => readText path bundle (Text.lower path.suffix) text

end Phrasebook.Catalog
