import DomainAtlas.Index.Views
import DomainAtlas.Report.Markup

/-!
# The report

One page: the domains with their shares, all definitions with theirs and, when usages were collected,
the names referred to most. It shows the views of a store and nothing else, so it does not depend on the
order in which the store was filled.
-/
namespace DomainAtlas

structure ReportHead where
  title : String
  root : String
  /-- When it was made, as it is shown. -/
  generated : String
  deriving DecidableEq, Repr

namespace Report

def defaultTitle : String := "Shopware Architecture Report"

/-! ## Fixed parts -/

/-- The start of the page, up to its title. -/
def opening : String := "<!doctype html>
<html lang=\"en\">
<head>
    <meta charset=\"UTF-8\">
    <meta name=\"viewport\" content=\"width=device-width, initial-scale=1\">
    <title>"

/-- The styles of the page, up to its heading. -/
def styles : String := "</title>
    <style>
        body \x7b
            font-family: Arial, sans-serif;
            margin: 20px;
            background-color: #121212;
            color: #e0e0e0;
        \x7d
        table \x7b
            width: 100%;
            border-collapse: collapse;
            margin-top: 20px;
            background-color: #1e1e1e;
        \x7d
        th, td \x7b
            border: 1px solid #333;
            padding: 8px;
            text-align: left;
            vertical-align: top;
        \x7d
        th \x7b
            background-color: #333;
            color: #ffffff;
        \x7d
        .numeric \x7b text-align: right; \x7d
        .muted \x7b color: #888; \x7d
        body.hide-internal tr.internal \x7b display: none; \x7d

        .domain-framework, .domain-fundamentals--framework \x7b background-color: blue; \x7d
        .domain-inventory \x7b background-color: green; \x7d
        .domain-discovery, .domain-fundamentals--discovery \x7b background-color: orange; \x7d
        .domain-checkout \x7b background-color: darkcyan; \x7d
        .domain-after-sales, .domain-fundamentals--after-sales \x7b background-color: red; \x7d
        .domain-data-services \x7b background-color: purple; \x7d
    </style>
</head>
<body>
    <h1>"

def summaryOpening : String := "</p>

    <h2>Summary</h2>
    <table>
        <thead>
            <tr>
                <th>Domain</th>
                <th>File count</th>
                <th>Share</th>
            </tr>
        </thead>
        <tbody>"

def tableClosing : String := "
        </tbody>
    </table>"

/-- The start of the table of definitions, after their number. -/
def listingOpening : String := ")</h2>
    <label><input type=\"checkbox\" id=\"toggle-internal\"> Hide internal</label>
    <table>
        <thead>
            <tr>
                <th>Domain</th>
                <th>Namespace / File</th>
                <th>Classname</th>
                <th>Is Internal</th>
                <th>Is Final</th>
            </tr>
        </thead>
        <tbody>"

/-- The start of the table of usages, after their number. -/
def usagesOpening : String := ")</h2>
    <table>
        <thead>
            <tr>
                <th>Type</th>
                <th>References</th>
                <th>Domain</th>
                <th>Defined in</th>
            </tr>
        </thead>
        <tbody>"

def closing : String := "

    <script>
        document.getElementById(\"toggle-internal\").addEventListener(\"change\", function (event) \x7b
            document.body.classList.toggle(\"hide-internal\", event.target.checked);
        \x7d);
    </script>
</body>
</html>"

/-! ## Rows -/

def cell (content : Piece) : List Piece :=
  [.markup "\n                <td>", content, .markup "</td>"]

def numericCell (content : Piece) : List Piece :=
  [.markup "\n                <td class=\"numeric\">", content, .markup "</td>"]

/-- A cell with a domain in its colour. -/
def domainCell (domain : String) : List Piece :=
  [.markup "\n                <td class=\"domain-", .slug domain, .markup "\">", .text domain,
    .markup "</td>"]

def row (attributes : String) (cells : List (List Piece)) : List Piece :=
  .markup ("\n            <tr" ++ attributes ++ ">") ::
    (cells.flatten ++ [.markup "\n            </tr>"])

def number (n : Nat) : Piece := .markup (toString n)

def bucketRow (b : Bucket) : List Piece :=
  row "" [domainCell b.domain, numericCell (number b.count),
    numericCell (.markup (b.percentage.fixed 1 ++ "%"))]

def yesNo (b : Bool) : String := if b then "Yes" else "No"

/-- The namespace of a definition, or its file when it has none. -/
def placeOf (d : Definition) : String := d.namespaceName.getD d.fileName

def definitionRow (d : Definition) : List Piece :=
  let final := match d.isFinal with
    | none => "n/a"
    | some b => yesNo b
  row (if d.isInternal then " class=\"internal\"" else "") [domainCell d.effectiveDomain,
    cell (.text (placeOf d)), cell (.text (d.className.getD "")), cell (.markup (yesNo d.isInternal)),
    cell (.markup final)]

def usageRow (e : UsageEntry) : List Piece :=
  let tail := match e.definition with
    | some d => [domainCell d.effectiveDomain, cell (.text d.fileName)]
    | none => [[.markup "\n                <td class=\"muted\">unresolved</td>"], cell (.markup "")]
  row "" (cell (.text e.name) :: numericCell (number e.count) :: tail)

/-! ## The page -/

def usagesPart (entries : List UsageEntry) : List Piece :=
  [.markup "

    <h2>Most referenced types (", number entries.length, .markup usagesOpening] ++
    entries.flatMap usageRow ++ [.markup tableClosing]

def pieces (head : ReportHead) (store : Store) (usages : Option UsageIndex) : List Piece :=
  let records := sortedByNamespace store
  [.markup opening, .text head.title, .markup styles, .text head.title,
    .markup "</h1>\n    <p class=\"muted\">Scanned root: ", .text head.root,
    .markup " &middot; generated ", .text head.generated, .markup summaryOpening] ++
    (domainBuckets store).flatMap bucketRow ++
    [.markup tableClosing, .markup "\n\n    <h2>All definitions with their domain (",
      number records.length, .markup listingOpening] ++
    records.flatMap definitionRow ++ [.markup tableClosing] ++
    (match usages with
      | some u => usagesPart (usageFrequency u store)
      | none => []) ++
    [.markup closing]

def render (head : ReportHead) (store : Store) (usages : Option UsageIndex) : String :=
  renderPieces (pieces head store usages)

end Report

end DomainAtlas
