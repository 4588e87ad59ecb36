import DomainAtlas.Proofs.Index.Views
import DomainAtlas.Proofs.Report.Rows

/-!
# Nothing from outside is markup

The report shows names, paths and domains as they come. Whatever characters they have, a reader of the
page finds the tags of the template only, and in the cells of the tables the values themselves.

Results:
* `Report.stands_pieces`: all tags and rows of a page.
* `Report.drawn_pieces`: what is written as it is comes from the template or is a number.
* `Report.render_safe`: values are read back, and the tags depend on the outline of a page alone.
* `Report.render_empty_index`: an index without names is not the same as no index.
-/
namespace DomainAtlas.Report

open Reading

/-! ## The page -/

/-- What stands between the heading of a page and its root. -/
def rootLead : String := "</h1>\n    <p class=\"muted\">Scanned root: "

/-- What stands before the number of definitions. -/
def listingHeading : String := "\n\n    <h2>All definitions with their domain ("

/-- What stands before the number of names. -/
def usagesHeading : String := "\n\n    <h2>Most referenced types ("

/-- What of a store and its usages decides the tags of a page. -/
structure Outline where
  /-- The slugs of the domains. -/
  domains : List String
  /-- Of every definition, whether it is internal and the slug of its domain. -/
  listing : List (Bool × String)
  /-- Of every name, the slug of the domain where it was resolved. -/
  usages : Option (List (Option String))
  deriving DecidableEq

def outline (store : Store) (usages : Option UsageIndex) : Outline where
  domains := (domainBuckets store).map fun b => domainSlug b.domain
  listing := (sortedByNamespace store).map fun d => (d.isInternal, domainSlug d.effectiveDomain)
  usages := usages.map fun u =>
    (usageFrequency u store).map fun e => e.definition.map fun d => domainSlug d.effectiveDomain

/-- The tags of the part about usages. -/
def Outline.usagesTags (o : Outline) : List String :=
  match o.usages with
  | none => []
  | some names =>
    tags usagesHeading ++ tags usagesOpening ++ names.flatMap usageTags ++ tags tableClosing

/-- The tags of a page with an outline. -/
def Outline.tags (o : Outline) : List String :=
  Reading.tags opening ++ (Reading.tags styles ++ (Reading.tags rootLead ++
      Reading.tags summaryOpening)) ++ o.domains.flatMap bucketTags ++
    (Reading.tags tableClosing ++ (Reading.tags listingHeading ++ Reading.tags listingOpening)) ++
    o.listing.flatMap definitionTags ++ Reading.tags tableClosing ++ o.usagesTags ++ Reading.tags closing

/-- The rows of the table of usages. -/
def usageRows (store : Store) : Option UsageIndex → List (List String)
  | none => []
  | some u =>
    [["Type", "References", "Domain", "Defined in"]] ++ (usageFrequency u store).map usageTexts

/-- The rows of a page: those of its tables, each after its header. -/
def rows (store : Store) (usages : Option UsageIndex) : List (List String) :=
  [["Domain", "File count", "Share"]] ++ (domainBuckets store).map bucketTexts ++
    [["Domain", "Namespace / File", "Classname", "Is Internal", "Is Final"]] ++
    (sortedByNamespace store).map definitionTexts ++ usageRows store usages

section Parts

variable {ps qs : List Piece} {ts us : List String} {rs ss : List (List String)}

/-- Pieces that leave a page between rows. -/
def Stands (ps : List Piece) (ts : List String) (rs : List (List String)) : Prop :=
  Reads (chars ps) .start ts rs .start

theorem Stands.append (h : Stands ps ts rs) (h' : Stands qs us ss) :
    Stands (ps ++ qs) (ts ++ us) (rs ++ ss) := by
  rw [Stands, chars_append]
  exact Reads.append h h'

/-- A text before other pieces. -/
theorem Stands.aside {p : Piece} (h : Stands [p] [] []) (h' : Stands qs us ss) : Stands (p :: qs) us ss :=
  h.append h'

/-- A fixed part without rows before other pieces. -/
theorem Stands.before {p : Piece} (h : Stands [p] ts []) (h' : Stands qs us ss) :
    Stands (p :: qs) (ts ++ us) ss := h.append h'

/-- Pieces without rows after others. -/
theorem Stands.after (h : Stands ps ts rs) (h' : Stands qs us []) : Stands (ps ++ qs) (ts ++ us) rs := by
  have whole := h.append h'
  rw [List.append_nil] at whole
  exact whole

theorem stands_markup {m : String} {cs : List Char} (letters : m = String.ofList cs) (h : Closed cs rs) :
    Stands [.markup m] (tags m) rs := by
  rw [Stands, chars_singleton]
  exact reads_closed letters h

/-- A text outside of all cells is neither tag nor row. -/
theorem stands_aside {p : Piece} (h : Untagged p.render.toList) : Stands [p] [] [] := by
  rw [Stands, chars_singleton]
  simpa [Row.start] using @reads_plain _ .start h

theorem stands_text (s : String) : Stands [.text s] [] [] := stands_aside (shows_text s).1

theorem stands_number (n : Nat) : Stands [number n] [] [] :=
  stands_aside (shows_plain (plain_toString n)).1

/-- Rows follow each other. -/
theorem stands_rows {α β : Type} (xs : List α) {f : α → List Piece} {g : α → β} {t : β → List String}
    {texts : α → List String} (h : ∀ x, Stands (f x) (t (g x)) [texts x]) :
    Stands (xs.flatMap f) ((xs.map g).flatMap t) (xs.map texts) := by
  rw [Stands, chars_flatMap, List.flatMap_map, List.map_eq_flatMap]
  exact .flatMap fun x _ => h x

end Parts

/-- The fixed parts of the page, with the rows that are the headers of its tables. -/
structure FixedParts : Prop where
  opening : Stands [.markup opening] (tags opening) []
  styles : Stands [.markup styles] (tags styles) []
  rootLead : Stands [.markup "</h1>\n    <p class=\"muted\">Scanned root: "] (tags rootLead) []
  summaryOpening : Stands [.markup summaryOpening] (tags summaryOpening)
    [["Domain", "File count", "Share"]]
  tableClosing : Stands [.markup tableClosing] (tags tableClosing) []
  listingHeading : Stands [.markup "\n\n    <h2>All definitions with their domain ("]
    (tags listingHeading) []
  listingOpening : Stands [.markup listingOpening] (tags listingOpening)
    [["Domain", "Namespace / File", "Classname", "Is Internal", "Is Final"]]
  usagesHeading : Stands [.markup "\n\n    <h2>Most referenced types ("] (tags usagesHeading) []
  usagesOpening : Stands [.markup usagesOpening] (tags usagesOpening)
    [["Type", "References", "Domain", "Defined in"]]
  closing : Stands [.markup closing] (tags closing) []

-- Where a text is spelled out as its letters, the terms are as deep as the text is long.
set_option maxRecDepth 20000 in
theorem fixedParts : FixedParts where
  opening := stands_markup rfl (by decide +kernel)
  styles := stands_markup rfl (by decide +kernel)
  rootLead := @stands_markup _ rootLead _ rfl (by decide +kernel)
  summaryOpening := stands_markup rfl (by decide +kernel)
  tableClosing := stands_markup rfl (by decide +kernel)
  listingHeading := @stands_markup _ listingHeading _ rfl (by decide +kernel)
  listingOpening := stands_markup rfl (by decide +kernel)
  usagesHeading := @stands_markup _ usagesHeading _ rfl (by decide +kernel)
  usagesOpening := stands_markup rfl (by decide +kernel)
  closing := stands_markup rfl (by decide +kernel)

theorem stands_usagesPart (es : List UsageEntry) :
    Stands (usagesPart es)
      (tags usagesHeading ++ tags usagesOpening ++
        (es.map fun e => e.definition.map fun d => domainSlug d.effectiveDomain).flatMap usageTags ++
        tags tableClosing)
      ([["Type", "References", "Domain", "Defined in"]] ++ es.map usageTexts) := by
  have heading := fixedParts.usagesHeading.before ((stands_number es.length).aside fixedParts.usagesOpening)
  have whole := heading.append (stands_rows es reads_usageRow) |>.after fixedParts.tableClosing
  unfold usagesPart
  exact whole

theorem stands_usages (store : Store) (usages : Option UsageIndex) :
    Stands (match usages with
        | some u => usagesPart (usageFrequency u store)
        | none => [])
      (outline store usages).usagesTags (usageRows store usages) := by
  cases usages with
  | none => exact Reads.nil _
  | some u => exact stands_usagesPart _

theorem stands_pieces (head : ReportHead) (store : Store) (usages : Option UsageIndex) :
    Stands (pieces head store usages) (outline store usages).tags (rows store usages) := by
  have generated : Stands [.markup " &middot; generated "] [] [] := stands_aside (by decide +kernel)
  -- Read from the left: up to the first table, its rows, up to the second table, its rows, the rest.
  have summary := fixedParts.opening.before ((stands_text head.title).aside (fixedParts.styles.before
    ((stands_text head.title).aside (fixedParts.rootLead.before ((stands_text head.root).aside
      (generated.aside ((stands_text head.generated).aside fixedParts.summaryOpening)))))))
  have listing := fixedParts.tableClosing.before (fixedParts.listingHeading.before
    ((stands_number (sortedByNamespace store).length).aside fixedParts.listingOpening))
  have whole := summary.append (stands_rows (domainBuckets store) reads_bucketRow)
    |>.append listing |>.append (stands_rows (sortedByNamespace store) reads_definitionRow)
    |>.after fixedParts.tableClosing |>.append (stands_usages store usages) |>.after fixedParts.closing
  rw [Outline.tags, rows]
  exact whole

/-! ## What is written as it is -/

def templateParts : List String :=
  [opening, styles, rootLead, " &middot; generated ", summaryOpening, tableClosing, listingHeading,
    listingOpening, usagesHeading, usagesOpening, closing, "\n            <tr>",
    "\n            <tr class=\"internal\">", "\n            </tr>", "\n                <td>",
    "\n                <td class=\"numeric\">", "\n                <td class=\"domain-", "\">", "</td>",
    "\n                <td class=\"muted\">unresolved</td>", "Yes", "No", "n/a", ""]

/-- Pieces of a page: what is written as it is comes from the template or is a number. -/
inductive FromTemplate : Piece → Prop where
  | part {m : String} (h : m ∈ templateParts) : FromTemplate (.markup m)
  | number (n : Nat) : FromTemplate (number n)
  | share (x : Double) : FromTemplate (.markup (x.fixed 1 ++ "%"))
  | text (s : String) : FromTemplate (.text s)
  | slug (domain : String) : FromTemplate (.slug domain)

/-- All of some pieces are. -/
def Drawn (ps : List Piece) : Prop := ∀ p ∈ ps, FromTemplate p

theorem Drawn.append {ps qs : List Piece} (h : Drawn ps) (h' : Drawn qs) : Drawn (ps ++ qs) :=
  List.forall_mem_append.mpr ⟨h, h'⟩

theorem Drawn.cons {p : Piece} {ps : List Piece} (h : FromTemplate p) (h' : Drawn ps) :
    Drawn (p :: ps) := List.forall_mem_cons.mpr ⟨h, h'⟩

theorem drawn_nil : Drawn [] := List.forall_mem_nil _

theorem drawn_part {m : String} (h : m ∈ templateParts) : Drawn [.markup m] := .cons (.part h) drawn_nil

theorem drawn_flatMap {α : Type} {xs : List α} {f : α → List Piece} (h : ∀ x, Drawn (f x)) :
    Drawn (xs.flatMap f) := by
  intro p among
  obtain ⟨x, -, own⟩ := List.mem_flatMap.mp among
  exact h x p own

theorem drawn_cell {p : Piece} (h : FromTemplate p) : Drawn (cell p) :=
  .cons (.part (by simp [templateParts])) (.cons h (drawn_part (by simp [templateParts])))

theorem drawn_numericCell {p : Piece} (h : FromTemplate p) : Drawn (numericCell p) :=
  .cons (.part (by simp [templateParts])) (.cons h (drawn_part (by simp [templateParts])))

theorem drawn_domainCell (domain : String) : Drawn (domainCell domain) :=
  .cons (.part (by simp [templateParts])) (.cons (.slug domain)
    (.cons (.part (by simp [templateParts])) (.cons (.text domain)
      (drawn_part (by simp [templateParts])))))

theorem drawn_row {internal : Bool} {pss : List (List Piece)} (h : ∀ ps ∈ pss, Drawn ps) :
    Drawn (row (if internal then " class=\"internal\"" else "") pss) := by
  have line : "\n            <tr" ++ (if internal then " class=\"internal\"" else "") ++ ">" ∈
      templateParts := by
    cases internal <;> simp [templateParts]
  have cells : Drawn pss.flatten := by
    intro p among
    obtain ⟨ps, own, among⟩ := List.mem_flatten.mp among
    exact h ps own p among
  exact .cons (.part line) (cells.append (drawn_part (by simp [templateParts])))

theorem fromTemplate_yesNo (b : Bool) : FromTemplate (.markup (yesNo b)) := by
  cases b <;> exact .part (by simp [templateParts, yesNo])

theorem drawn_bucketRow (b : Bucket) : Drawn (bucketRow b) := by
  refine @drawn_row false _ ?_
  simp only [List.forall_mem_cons]
  exact ⟨drawn_domainCell _, drawn_numericCell (.number _), drawn_numericCell (.share _),
    List.forall_mem_nil _⟩

theorem drawn_definitionRow (d : Definition) : Drawn (definitionRow d) := by
  have final : FromTemplate (.markup (finalText d)) := by
    unfold finalText
    split
    · exact .part (by simp [templateParts])
    · exact fromTemplate_yesNo _
  refine drawn_row ?_
  simp only [List.forall_mem_cons]
  exact ⟨drawn_domainCell _, drawn_cell (.text _), drawn_cell (.text _),
    drawn_cell (fromTemplate_yesNo _), drawn_cell final, List.forall_mem_nil _⟩

theorem drawn_usageRow (e : UsageEntry) : Drawn (usageRow e) := by
  obtain ⟨name, count, files, definition⟩ := e
  refine @drawn_row false _ ?_
  cases definition with
  | some d =>
    simp only [List.forall_mem_cons]
    exact ⟨drawn_cell (.text _), drawn_numericCell (.number _), drawn_domainCell _,
      drawn_cell (.text _), List.forall_mem_nil _⟩
  | none =>
    simp only [List.forall_mem_cons]
    exact ⟨drawn_cell (.text _), drawn_numericCell (.number _), drawn_part (by simp [templateParts]),
      drawn_cell (.part (by simp [templateParts])), List.forall_mem_nil _⟩

theorem drawn_usagesPart (es : List UsageEntry) : Drawn (usagesPart es) := by
  have heading : "\n\n    <h2>Most referenced types (" ∈ templateParts := by
    simp [templateParts, usagesHeading]
  have start : Drawn [.markup "\n\n    <h2>Most referenced types (", number es.length,
      .markup usagesOpening] :=
    .cons (.part heading) (.cons (.number _) (drawn_part (by simp [templateParts])))
  exact (start.append (drawn_flatMap drawn_usageRow)).append (drawn_part (by simp [templateParts]))

theorem drawn_pieces (head : ReportHead) (store : Store) (usages : Option UsageIndex) :
    Drawn (pieces head store usages) := by
  have lead : "</h1>\n    <p class=\"muted\">Scanned root: " ∈ templateParts := by
    simp [templateParts, rootLead]
  have heading : "\n\n    <h2>All definitions with their domain (" ∈ templateParts := by
    simp [templateParts, listingHeading]
  have made : Drawn [.markup " &middot; generated ", .text head.generated, .markup summaryOpening] :=
    .cons (.part (by simp [templateParts])) (.cons (.text _) (drawn_part (by simp [templateParts])))
  have summary : Drawn [.markup opening, .text head.title, .markup styles, .text head.title,
      .markup "</h1>\n    <p class=\"muted\">Scanned root: ", .text head.root,
      .markup " &middot; generated ", .text head.generated, .markup summaryOpening] :=
    .cons (.part (by simp [templateParts])) (.cons (.text _) (.cons (.part (by simp [templateParts]))
      (.cons (.text _) (.cons (.part lead) (.cons (.text _) made)))))
  have listing : Drawn [.markup tableClosing, .markup "\n\n    <h2>All definitions with their domain (",
      number (sortedByNamespace store).length, .markup listingOpening] :=
    .cons (.part (by simp [templateParts])) (.cons (.part heading)
      (.cons (.number _) (drawn_part (by simp [templateParts]))))
  have closed : Drawn [.markup tableClosing] := drawn_part (by simp [templateParts])
  have ended : Drawn [.markup closing] := drawn_part (by simp [templateParts])
  have names : Drawn (match usages with
      | some u => usagesPart (usageFrequency u store)
      | none => []) := by
    cases usages with
    | none => exact drawn_nil
    | some u => exact drawn_usagesPart _
  exact summary.append (drawn_flatMap drawn_bucketRow) |>.append listing
    |>.append (drawn_flatMap drawn_definitionRow) |>.append closed |>.append names |>.append ended

/-! ## Pages -/

theorem reads_render (head : ReportHead) (store : Store) (usages : Option UsageIndex) :
    grid (render head store usages) = rows store usages ∧
      tags (render head store usages) = (outline store usages).tags := by
  have page := stands_pieces head store usages
  rw [Stands, ← toList_renderPieces, ← render] at page
  exact ⟨page.rows, page.tags⟩

theorem tags_render (head : ReportHead) (store : Store) (usages : Option UsageIndex) :
    tags (render head store usages) = (outline store usages).tags := (reads_render head store usages).2

/-- **Nothing from outside is markup.** A page consists of parts of the template, numbers, escaped texts
and slugs. What was escaped has no character of markup, and reads as it was; a slug has letters, digits,
underscores and dashes only. So a reader finds in the cells of its tables the values themselves, in a
row for every domain, every definition and every name; and the tags of the page depend on its outline
alone: the slugs of the domains, which definitions are internal, which names are resolved, and whether
usages were collected at all. -/
theorem render_safe (head : ReportHead) (store : Store) (usages : Option UsageIndex) :
    render head store usages = renderPieces (pieces head store usages) ∧
    (∀ p ∈ pieces head store usages, FromTemplate p) ∧
    (∀ s, unescape (escaped s).toList = s.toList ∧ ∀ c ∈ (escaped s).toList, ¬ IsMarkup c) ∧
    (∀ domain, ∀ c ∈ (domainSlug domain).toList, c.isAlphanum ∨ c = '_' ∨ c = '-') ∧
    grid (render head store usages) = rows store usages ∧
    (sortedByNamespace store).Perm store.definitions ∧
    (∀ u, ((usageFrequency u store).map UsageEntry.name).Perm (u.items.map Prod.fst)) ∧
    ∀ head' store' usages', outline store usages = outline store' usages' →
      tags (render head store usages) = tags (render head' store' usages') := by
  refine ⟨rfl, drawn_pieces _ _ _, fun s => ⟨unescape_escaped s, escaped_harmless s⟩, ?_,
    (reads_render _ _ _).1, sortedByNamespace_perm store, fun u => names_usageFrequency u store, ?_⟩
  · intro domain c among
    simpa [isSlugChar, or_assoc] using isSlugChar_of_mem domain c among
  · intro head' store' usages' same
    rw [tags_render, tags_render, same]

/-- A page without definitions. -/
def emptyHead : ReportHead := ⟨defaultTitle, "", "2024-05-06 07:08:09 UTC"⟩

/-- An index without names has no rows, but its table has tags: the page has more of them than without
an index. -/
theorem render_empty_index :
    (outline .empty none).domains = (outline .empty (some .empty)).domains ∧
    (outline .empty none).listing = (outline .empty (some .empty)).listing ∧
    (outline .empty none).usages.getD [] = (outline .empty (some .empty)).usages.getD [] ∧
    tags (render emptyHead .empty none) ≠ tags (render emptyHead .empty (some .empty)) := by
  have names : usageFrequency .empty .empty = [] := by simp [usageFrequency, UsageIndex.empty]
  refine ⟨rfl, rfl, ?_, fun same => ?_⟩
  · simp [outline, names]
  · have table : tags tableClosing ≠ [] := by decide +kernel
    have domains : (outline .empty (some .empty)).domains = (outline .empty none).domains := rfl
    have listing : (outline .empty (some .empty)).listing = (outline .empty none).listing := rfl
    rw [tags_render, tags_render, Outline.tags, Outline.tags, domains, listing] at same
    have parts := List.append_cancel_left (List.append_cancel_right same)
    simp only [outline, Outline.usagesTags, Option.map_none, Option.map_some, names] at parts
    exact table (List.append_eq_nil_iff.mp parts.symm).2

end DomainAtlas.Report
