import DomainAtlas.Path
import DomainAtlas.Text.Casing

/-!
# Source dialects

A scan knows two dialects: PHP, whose files declare classes, and script files, which have none.
The ending of a file decides which one it belongs to. Each dialect comes with the query that finds
what its extractor needs; the PHP one has a place for the name of the attribute that carries the
domain.
-/
namespace DomainAtlas

inductive Dialect where
  | php
  | script
  deriving DecidableEq, Repr

namespace Dialect

def name : Dialect → String
  | .php => "php"
  | .script => "script"

def ofName? (s : String) : Option Dialect := [php, script].find? fun d => d.name == s

def grammar : Dialect → String
  | .php => "tree-sitter-php"
  | .script => "tree-sitter-typescript"

def extensions : Dialect → List String
  | .php => ["php"]
  | .script => ["js", "ts"]

/-- The dialect of a file ending, with or without its dot, in any case. -/
def ofExtension? (ext : String) : Option Dialect :=
  let e := Text.stripCharLeft '.' (Text.lowerAscii ext)
  [php, script].find? fun d => d.extensions.contains e

/-- The dialect of a path. -/
-- Irreducible, so that a proof about a match on it does not start to evaluate the ending.
@[irreducible] def ofPath? (path : String) : Option Dialect := ofExtension? (Path.parse path).suffix

/-- Whether references to qualified names are collected. -/
def hasUsageQuery : Dialect → Bool
  | .php => true
  | .script => false

/-- The place for the attribute name in a query. -/
def attributeSlot : String := "\x7battribute\x7d"

/-- What is looked for in a PHP file, with the place for the attribute name. -/
def phpQuery : String := "
(namespace_definition
  name: (namespace_name) @namespace)

(program (comment) @comment)

(namespace_definition
  body: (compound_statement (comment) @comment))

(class_declaration
  attributes: (attribute_list
    (attribute_group
      (attribute
        (name) @attribute_name
        (#eq? @attribute_name \"\x7battribute\x7d\")
        parameters: (arguments
          .
          (argument
            [
              (string (string_content) @package)
              (encapsed_string (string_content) @package)
            ]))))))

(class_declaration
  (final_modifier) @final_keyword)

(class_declaration
  name: (name) @classname) @class
"

def scriptQuery : String := "\n(program (comment) @comment)\n"

def definitionQuery (d : Dialect) (sentinel : String) : String :=
  match d with
  | .php => Text.replace phpQuery attributeSlot sentinel
  | .script => scriptQuery

end Dialect

end DomainAtlas
