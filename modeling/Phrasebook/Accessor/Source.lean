import Phrasebook.Accessor.Spec

/-!
The source text of an accessor: a Python module with one class and one method for each message key.
The text is a function of the accessor alone. It is assembled from a head, the constants, the head of
the class, and one block for each method.
-/

namespace Phrasebook.Accessor

open Text Number

def docstringChars (cs : List Char) : List Char :=
  cs.flatMap fun c => if c = '"' then ['\\', '"'] else [c]

def docstring (s : String) : String := String.ofList (docstringChars s.toList)

def pathParts (dir : String) : List String :=
  let path := Path.ofString (String.ofList (dir.toList.map fun c => if c = '\\' then '/' else c))
  (if path.isAbsolute then [path.root.text] else []) ++ path.segments

def tupleLiteral : List String → String
  | [] => "()"
  | [item] => "(" ++ quoted item ++ ",)"
  | items => "(" ++ commaSeparated (items.map quoted) ++ ")"

def unlines (lines : List String) : String :=
  String.join (lines.map fun line => line ++ "\n")

def Spec.usesNamed (spec : Spec) : Bool := spec.descriptors.any fun d => d.mode = .named

def variantCount (locales : List String) : String :=
  if locales.isEmpty then "" else " and " ++ natText locales.length ++ " locale variant(s)"

def Spec.head (spec : Spec) : List String :=
  ["\"\"\"Typed message accessors for the ``" ++ spec.bundle ++ "`` bundle.",
    "",
    "Generated by typedbundle from the default catalog" ++ variantCount spec.locales ++ ".",
    "Do not edit; regenerate with ``typedbundle generate``.",
    "\"\"\"",
    "",
    "from __future__ import annotations",
    "",
    "from pathlib import Path",
    "",
    "from typedbundle.runtime import (",
    "    LocaleResolver,"] ++
  (if spec.usesNamed then ["    format_named,"] else []) ++
  ["    format_positional,",
    "    get_resolver,",
    ")",
    ""]

def Spec.directory (spec : Spec) : String :=
  if spec.isRelative then
    "Path(__file__).resolve().parent" ++
      String.join ((pathParts spec.catalogDir).map fun part => " / " ++ quoted part)
  else "Path(" ++ quoted spec.catalogDir ++ ")"

def Spec.constants (spec : Spec) : List String :=
  ["BUNDLE_NAME = " ++ quoted spec.bundle,
    "CATALOG_DIR = " ++ spec.directory,
    "LOCALES: tuple[str, ...] = " ++ tupleLiteral spec.locales,
    "",
    ""]

def Spec.classHead (spec : Spec) : List String :=
  ["class " ++ spec.className ++ ":",
    "    \"\"\"Typed accessors for the ``" ++ spec.bundle ++ "`` bundle.",
    "",
    "    Each method takes the locale first, then exactly the arguments the",
    "    default template requires, in declaration order.",
    "    \"\"\"",
    "",
    "    bundle_name = BUNDLE_NAME",
    "    KEYS: tuple[str, ...] = ("] ++
  spec.descriptors.map (fun d => "        " ++ quoted d.key ++ ",") ++
  ["    )",
    "",
    "    def __init__(self, resolver: LocaleResolver | None = None) -> None:",
    "        self._resolver = resolver or get_resolver(BUNDLE_NAME, CATALOG_DIR)",
    "",
    "    @property",
    "    def resolver(self) -> LocaleResolver:",
    "        return self._resolver"]

def Descriptor.signature (d : Descriptor) : String :=
  "    def " ++ d.method ++ "(self, locale: str | None" ++
    String.join (d.parameters.map fun p => ", " ++ p.name ++ ": object") ++ ") -> str:"

def Descriptor.call (d : Descriptor) : List String :=
  if d.mode = .named then
    ["        return format_named(",
      "            template,",
      "            \x7b"] ++
    d.parameters.map (fun p =>
      "                " ++ quoted p.placeholder.fieldName ++ ": " ++ p.name ++ ",") ++
    ["            \x7d,",
      "        )"]
  else
    ["        return format_positional(template" ++
      String.join (d.parameters.map fun p => ", " ++ p.name) ++ ")"]

def Descriptor.block (d : Descriptor) : List String :=
  ["",
    d.signature,
    "        \"\"\"" ++ docstring (quoted d.key) ++ ": " ++ docstring (quoted d.template) ++
      ".\"\"\"",
    "        template = self._resolver.get_string(locale, " ++ quoted d.key ++ ")"] ++
  d.call

def Spec.source (spec : Spec) : String :=
  unlines (spec.head ++ spec.constants ++ spec.classHead ++
    spec.descriptors.flatMap Descriptor.block)

/-- Whether a text may stand inside triple quotes: it neither ends the string nor holds an escape that
lacks its digits. -/
def fitsTripleQuotes : List Char → Bool
  | '"' :: '"' :: '"' :: _ => false
  | '\\' :: 'x' :: rest => (rest.take 2).length = 2 && (rest.take 2).all isHexDigit &&
      fitsTripleQuotes rest
  | '\\' :: 'u' :: rest => (rest.take 4).length = 4 && (rest.take 4).all isHexDigit &&
      fitsTripleQuotes rest
  | '\\' :: 'U' :: rest => (rest.take 8).length = 8 && (rest.take 8).all isHexDigit &&
      fitsTripleQuotes rest
  | '\\' :: 'N' :: _ => false
  | '\\' :: _ :: rest => fitsTripleQuotes rest
  | _ :: rest => fitsTripleQuotes rest
  | [] => true

def isName (name : String) : Bool := isIdentifier name.toList && !keywords.contains name

/-- Whether the text of the module is a Python module. Keys and templates are always quoted, so only
the bundle in the two docstrings, the class name and the method names can spoil it. -/
def Spec.isWellFormed (spec : Spec) : Bool :=
  fitsTripleQuotes spec.bundle.toList && isName spec.className &&
    spec.descriptors.all fun d => isName d.method

/-- The source of an accessor. One that is not well formed is refused, and so is a null character,
which no source may hold. -/
def render (spec : Spec) : Report String :=
  let source := spec.source
  if source.contains '\x00' then .fail (.breach .value)
  else if !spec.isWellFormed then .fail (.issue (.invalidSource spec.bundle))
  else do
    Report.record (.rendered spec.className spec.descriptors.length source.length)
    pure source

/-- The source of the accessor that catalogs have, with the directory to load them from. -/
def sourceOf (options : Options) (directory : String) (isRelative : Bool) (catalogs : CatalogSet) :
    Report String := do
  let spec ← build options catalogs
  render { spec with catalogDir := directory, isRelative := isRelative }

end Phrasebook.Accessor
