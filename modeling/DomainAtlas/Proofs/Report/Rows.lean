import DomainAtlas.Proofs.Report.Reading
import DomainAtlas.Report.Page

/-!
# Reading the rows of a report

The cells of a row hold texts that were escaped, numbers, and words of the report itself. A reader finds
the tags of the row, which depend on nothing but slugs, and in its cells the texts as they were.

Results:
* `Report.shows_text`, `Report.shows_plain`: what a piece is read as.
* `Report.fills_cell`, `Report.fills_numericCell`, `Report.fills_domainCell`: cells.
* `Report.reads_bucketRow`, `Report.reads_definitionRow`, `Report.reads_usageRow`: rows.
-/
namespace DomainAtlas.Report

open Reading

/-- The characters of some pieces. -/
def chars (ps : List Piece) : List Char := ps.flatMap fun p => p.render.toList

theorem toList_renderPieces (ps : List Piece) : (renderPieces ps).toList = chars ps := by
  rw [renderPieces, chars, String.toList_join, List.flatMap_map]

theorem chars_append (ps qs : List Piece) : chars (ps ++ qs) = chars ps ++ chars qs :=
  List.flatMap_append

theorem chars_cons (p : Piece) (ps : List Piece) : chars (p :: ps) = p.render.toList ++ chars ps := rfl

theorem chars_singleton (p : Piece) : chars [p] = p.render.toList := by
  rw [chars, List.flatMap_singleton]

theorem chars_flatMap {α : Type} (xs : List α) (f : α → List Piece) :
    chars (xs.flatMap f) = xs.flatMap fun x => chars (f x) := List.flatMap_assoc

/-! ## Numbers -/

/-- Texts that a reader takes as they are. -/
def Plain (s : String) : Prop := ∀ c ∈ s.toList, c ≠ '<' ∧ c ≠ '&'

instance (s : String) : Decidable (Plain s) := List.decidableBAll _ _

theorem Plain.append {s t : String} (hs : Plain s) (ht : Plain t) : Plain (s ++ t) := by
  intro c among
  rw [String.toList_append, List.mem_append] at among
  exact among.elim (hs c) (ht c)

theorem plain_digit {n : Nat} {c : Char} (h : c ∈ Nat.toDigits 10 n) : c ≠ '<' ∧ c ≠ '&' := by
  have digit := Nat.isDigit_of_mem_toDigits (by decide) (by decide) h
  constructor
  · rintro rfl
    cases digit
  · rintro rfl
    cases digit

theorem plain_toString (n : Nat) : Plain (toString n) := by
  intro c among
  rw [Nat.toString_eq_repr, Nat.repr_eq_ofList_toDigits, String.toList_ofList] at among
  exact plain_digit among

theorem plain_padZeros {width n : Nat} {c : Char} (h : c ∈ Double.padZeros width (Nat.toDigits 10 n)) :
    c ≠ '<' ∧ c ≠ '&' := by
  rw [Double.padZeros, List.mem_append] at h
  rcases h with zero | digit
  · rw [List.eq_of_mem_replicate zero]
    decide
  · exact plain_digit digit

/-- A share is digits, a point and a sign at most, or a word. -/
theorem plain_fixed (x : Double) : Plain (x.fixed 1) := by
  have part {cs ds : List Char} (sub : ∀ c ∈ cs, c ∈ ds) (h : ∀ c ∈ ds, c ≠ '<' ∧ c ≠ '&') :
      Plain (String.ofList cs) := by
    intro c among
    rw [String.toList_ofList] at among
    exact h c (sub c among)
  have sign (neg : Bool) : Plain (if neg then "-" else "") := by
    cases neg <;> decide
  unfold Double.fixed
  cases ratio : x.ratio? with
  | none =>
    cases x with
    | finite => cases ratio
    | infinite neg => cases neg <;> decide
    | nan => decide
  | some r =>
    obtain ⟨neg, num, den⟩ := r
    have digits (n : Nat) (c : Char) := @plain_padZeros (1 + 1) n c
    have whole (n k : Nat) :
        Plain (String.ofList ((Double.padZeros (1 + 1) (Nat.toDigits 10 n)).take k)) :=
      part (fun _ => List.mem_of_mem_take) (digits n)
    have rest (n k : Nat) :
        Plain (String.ofList ((Double.padZeros (1 + 1) (Nat.toDigits 10 n)).drop k)) :=
      part (fun _ => List.mem_of_mem_drop) (digits n)
    exact (((sign neg).append (whole _ _)).append (by decide)).append (rest _ _)

/-! ## Cells and rows -/

section Cells

variable {cs : List Char} {cells : List String}

/-- A line break and some spaces. -/
def blank (n : Nat) : List Token := .char '\n' :: List.replicate n (.char ' ')

theorem reads_blank (n : Nat) : tagsOf (blank n) = [] ∧ tables.run ⟨cells, none⟩ (blank n) = [] ∧
    tables.after ⟨cells, none⟩ (blank n) = ⟨cells, none⟩ := by
  have spaces (n : Nat) : tagsOf (List.replicate n (.char ' ')) = [] ∧
      tables.run ⟨cells, none⟩ (List.replicate n (.char ' ')) = [] ∧
      tables.after ⟨cells, none⟩ (List.replicate n (.char ' ')) = ⟨cells, none⟩ := by
    induction n with
    | zero => exact ⟨rfl, rfl, rfl⟩
    | succ n ih => exact ih
  exact spaces n

/-- A line of one tag. -/
theorem reads_tag {n : Nat} {tag : List Char} (line : tokenizer.after .text cs = .text ∧
    tokens cs = blank n ++ [.tag tag]) :
    Reads cs ⟨cells, none⟩ [String.ofList tag] (tables.out ⟨cells, none⟩ (.tag tag))
      (tables.next ⟨cells, none⟩ (.tag tag)) := by
  obtain ⟨closed, found⟩ := line
  obtain ⟨tags, rows, row⟩ := @reads_blank cells n
  refine ⟨closed, ?_, ?_, ?_⟩
  · rw [found, tagsOf, List.filterMap_append, ← tagsOf, tags]
    rfl
  · rw [found, tables.run_append, rows, row]
    simp
  · rw [found, tables.after_append, row]
    rfl

/-- A line of one tag, given by its letters: reading runs on these, not on the text. -/
theorem reads_line {n : Nat} {m name : String} {tag : List Char} (letters : m = String.ofList cs)
    (same : name = String.ofList tag)
    (line : tokenizer.after .text cs = .text ∧ tokens cs = blank n ++ [.tag tag]) :
    Reads m.toList ⟨cells, none⟩ [name] (tables.out ⟨cells, none⟩ (.tag tag))
      (tables.next ⟨cells, none⟩ (.tag tag)) := by
  rw [letters, String.toList_ofList, same]
  exact reads_tag line

/-- Some pieces make cells: with these tags and these texts. -/
def Fills (ps : List Piece) (ts texts : List String) : Prop :=
  ∀ cells, Reads (chars ps) ⟨cells, none⟩ ts [] ⟨cells ++ texts, none⟩

theorem Fills.nil : Fills [] [] [] := by
  intro cells
  rw [List.append_nil]
  exact .nil _

theorem Fills.append {ps qs : List Piece} {ts us texts more : List String} (h : Fills ps ts texts)
    (h' : Fills qs us more) : Fills (ps ++ qs) (ts ++ us) (texts ++ more) := by
  intro cells
  rw [chars_append, ← List.append_assoc]
  exact (h cells).append (h' _)

/-- A cell is opened by a line, and closed after its text. -/
theorem reads_cell {opening content : List Char} {tag : String} {cells : List String}
    (opens : Reads opening ⟨cells, none⟩ [tag] [] ⟨cells, some []⟩)
    (plain : Untagged content) :
    Reads (opening ++ (content ++ "</td>".toList)) ⟨cells, none⟩ [tag, "</td>"] []
      ⟨cells ++ [String.ofList (unescape content)], none⟩ := by
  have inside : Reads content ⟨cells, some []⟩ [] [] ⟨cells, some content⟩ := by
    simpa using @reads_plain content ⟨cells, some []⟩ plain
  have closing : tokens "</td>".toList = [.tag "</td>".toList] := by decide +kernel
  have closes : Reads "</td>".toList ⟨cells, some content⟩ ["</td>"] []
      ⟨cells ++ [String.ofList (unescape content)], none⟩ :=
    reads_of_tokens (by decide +kernel) closing
  exact opens.append (inside.append closes)

/-- A piece is read as this text. -/
def Shows (p : Piece) (text : String) : Prop :=
  Untagged p.render.toList ∧ String.ofList (unescape p.render.toList) = text

theorem shows_text (s : String) : Shows (.text s) s := by
  refine ⟨fun c among => ?_, ?_⟩
  · rintro rfl
    exact escaped_harmless s _ among (.inl rfl)
  · rw [Piece.render, unescape_escaped, String.ofList_toList]

theorem shows_plain {m : String} (h : Plain m) : Shows (.markup m) m := by
  refine ⟨fun c among => (h c among).1, ?_⟩
  rw [Piece.render, unescape_of_notMem fun c among => (h c among).2, String.ofList_toList]

def cellTags : List String := ["<td>", "</td>"]

theorem fills_cell {p : Piece} {text : String} (h : Shows p text) :
    Fills (cell p) cellTags [text] := by
  intro cells
  have opens : Reads "\n                <td>".toList ⟨cells, none⟩ ["<td>"] [] ⟨cells, some []⟩ :=
    reads_line (n := 16) rfl rfl (by decide +kernel)
  rw [cell, chars_cons, chars_cons, chars_singleton, ← h.2]
  exact reads_cell opens h.1

/-- The tags of a cell with a number. -/
def numericTags : List String := ["<td class=\"numeric\">", "</td>"]

theorem fills_numericCell {p : Piece} {text : String} (h : Shows p text) :
    Fills (numericCell p) numericTags [text] := by
  intro cells
  have opens : Reads "\n                <td class=\"numeric\">".toList ⟨cells, none⟩
      ["<td class=\"numeric\">"] [] ⟨cells, some []⟩ := reads_line (n := 16) rfl rfl (by decide +kernel)
  rw [numericCell, chars_cons, chars_cons, chars_singleton, ← h.2]
  exact reads_cell opens h.1

/-- The tag that opens a cell in the colour of a domain. -/
def domainTag (slug : String) : String := "<td class=\"domain-" ++ slug ++ "\">"

def domainTags (slug : String) : List String := [domainTag slug, "</td>"]

/-- Characters in quotes belong to the tag. -/
theorem tokenizer_quoted {quote : Char} {part : List Char} (h : ∀ c ∈ cs, c ≠ quote) :
    tokenizer.run (.quoted quote part) cs = [] ∧
      tokenizer.after (.quoted quote part) cs = .quoted quote (part ++ cs) := by
  induction cs generalizing part with
  | nil => simp
  | cons c cs ih =>
    simp only [List.forall_mem_cons] at h
    have stays : tokenizer.next (.quoted quote part) c = .quoted quote (part ++ [c]) := if_neg h.1
    have silent : tokenizer.out (.quoted quote part) c = [] := rfl
    obtain ⟨none, within⟩ := @ih (part ++ [c]) h.2
    rw [Machine.run_cons, Machine.after_cons, stays, silent, none, within, List.append_assoc]
    exact ⟨rfl, rfl⟩

/-- A tag whose last attribute has a value in quotes. -/
theorem reads_attribute {n : Nat} {opening part value tag : List Char}
    (start : tokenizer.run .text opening = blank n)
    (inQuotes : tokenizer.after .text opening = .quoted '"' part) (quiet : ∀ c ∈ value, c ≠ '"')
    (whole : tag = part ++ value ++ ['"', '>']) :
    tokenizer.after .text (opening ++ (value ++ ['"', '>'])) = .text ∧
      tokens (opening ++ (value ++ ['"', '>'])) = blank n ++ [.tag tag] := by
  obtain ⟨none, within⟩ := @tokenizer_quoted _ '"' part quiet
  have ending (part : List Char) :
      tokenizer.run (.quoted '"' part) ['"', '>'] = [.tag (part ++ ['"', '>'])] ∧
        tokenizer.after (.quoted '"' part) ['"', '>'] = .text := by
    simp [tokenizer]
  constructor
  · rw [tokenizer.after_append, inQuotes, tokenizer.after_append, within, (ending _).2]
  · rw [tokens, tokenizer.run_append, start, inQuotes, tokenizer.run_append, none, within,
      (ending _).1, List.nil_append, whole]

theorem tagKind_cell (attributes : List Char) :
    tagKind ('<' :: 't' :: 'd' :: ' ' :: attributes) = .opensCell := rfl

theorem fills_domainCell (domain : String) :
    Fills (domainCell domain) (domainTags (domainSlug domain)) [domain] := by
  intro cells
  -- No character of a slug ends the quotes, so the slug stays within the attribute.
  have quiet : ∀ c ∈ (domainSlug domain).toList, c ≠ '"' := by
    rintro c among rfl
    cases isSlugChar_of_mem domain _ among
  have letters : "\">".toList = ['"', '>'] := by decide
  have name : "<td class=\"domain-".toList = '<' :: 't' :: 'd' :: ' ' :: "class=\"domain-".toList := by
    decide +kernel
  have parts (a b c : String) : (a ++ b ++ c).toList = a.toList ++ b.toList ++ c.toList := by
    rw [String.toList_append, String.toList_append]
  have whole : (domainTag (domainSlug domain)).toList =
      "<td class=\"domain-".toList ++ (domainSlug domain).toList ++ ['"', '>'] :=
    letters ▸ parts "<td class=\"domain-" (domainSlug domain) "\">"
  have line := @reads_attribute 16 "\n                <td class=\"domain-".toList
    "<td class=\"domain-".toList _ _ (by decide +kernel) (by decide +kernel) quiet whole
  have kind : tagKind (domainTag (domainSlug domain)).toList = .opensCell := by
    rw [whole, name]
    exact tagKind_cell _
  have opens := @reads_tag _ cells 16 _ line
  simp only [tables, kind, String.ofList_toList, reduceCtorEq, if_false] at opens
  obtain ⟨plain, shown⟩ := shows_text domain
  have read := reads_cell opens plain
  rw [shown] at read
  have assoc (as bs cs ds : List Char) : as ++ (bs ++ (cs ++ ds)) = (as ++ (bs ++ cs)) ++ ds := by
    rw [List.append_assoc, List.append_assoc]
  rw [domainCell, chars_cons, chars_cons, chars_cons, chars_cons, chars_singleton, assoc]
  simp only [Piece.render] at read ⊢
  rw [letters]
  exact read

def mutedTags : List String := ["<td class=\"muted\">", "</td>"]

theorem fills_unresolved :
    Fills [.markup "\n                <td class=\"muted\">unresolved</td>"] mutedTags
      ["unresolved"] := by
  intro cells
  have opens : Reads "\n                <td class=\"muted\">".toList ⟨cells, none⟩
      ["<td class=\"muted\">"] [] ⟨cells, some []⟩ := reads_line (n := 16) rfl rfl (by decide +kernel)
  have read := @reads_cell _ "unresolved".toList _ _ opens (by decide)
  have parts : "\n                <td class=\"muted\">unresolved</td>".toList =
      "\n                <td class=\"muted\">".toList ++ ("unresolved".toList ++ "</td>".toList) := by
    decide +kernel
  have shown : String.ofList (unescape "unresolved".toList) = "unresolved" := by decide
  rw [shown] at read
  rw [chars_singleton, Piece.render, parts]
  exact read

def rowTag (internal : Bool) : String := if internal then "<tr class=\"internal\">" else "<tr>"

/-- A row is read as the texts of its cells. -/
theorem reads_row {internal : Bool} {pss : List (List Piece)} {ts texts : List String}
    (h : Fills pss.flatten ts texts) :
    Reads (chars (row (if internal then " class=\"internal\"" else "") pss)) .start
      (rowTag internal :: (ts ++ ["</tr>"])) [texts] .start := by
  have opens : Reads
      ("\n            <tr" ++ (if internal then " class=\"internal\"" else "") ++ ">").toList
      ⟨[], none⟩ [rowTag internal] [] ⟨[], none⟩ := by
    cases internal
    · exact @reads_line _ _ 12 "\n            <tr>" _ _ rfl rfl (by decide +kernel)
    · exact @reads_line _ _ 12 "\n            <tr class=\"internal\">" _ _ rfl rfl (by decide +kernel)
  have closes : Reads "\n            </tr>".toList ⟨texts, none⟩ ["</tr>"] [texts] ⟨[], none⟩ :=
    reads_line (n := 12) rfl rfl (by decide +kernel)
  rw [row, chars_cons, chars_append, chars_singleton]
  exact opens.append ((h []).append closes)

end Cells

/-! ## The rows of the page -/

def bucketTexts (b : Bucket) : List String :=
  [b.domain, toString b.count, b.percentage.fixed 1 ++ "%"]

def finalText (d : Definition) : String :=
  match d.isFinal with
  | none => "n/a"
  | some b => yesNo b

def definitionTexts (d : Definition) : List String :=
  [d.effectiveDomain, placeOf d, d.className.getD "", yesNo d.isInternal, finalText d]

/-- What the row of a name shows. -/
def usageTexts (e : UsageEntry) : List String :=
  [e.name, toString e.count] ++
    match e.definition with
    | some d => [d.effectiveDomain, d.fileName]
    | none => ["unresolved", ""]

def bucketTags (slug : String) : List String :=
  rowTag false :: ((domainTags slug ++ (numericTags ++ numericTags)) ++ ["</tr>"])

/-- The tags of the row of a definition, by whether it is internal and the slug of its domain. -/
def definitionTags (d : Bool × String) : List String :=
  rowTag d.1 :: ((domainTags d.2 ++ (cellTags ++ (cellTags ++ (cellTags ++ cellTags)))) ++ ["</tr>"])

/-- The tags of the row of a name, by the slug of the domain where it was resolved. -/
def usageTags (slug : Option String) : List String :=
  let tail := match slug with
    | some slug => domainTags slug
    | none => mutedTags
  rowTag false :: ((cellTags ++ (numericTags ++ (tail ++ cellTags))) ++ ["</tr>"])

theorem shows_yesNo (b : Bool) : Shows (.markup (yesNo b)) (yesNo b) := by
  cases b <;> exact shows_plain (by decide)

theorem reads_bucketRow (b : Bucket) :
    Reads (chars (bucketRow b)) .start (bucketTags (domainSlug b.domain)) [bucketTexts b] .start := by
  have share : Shows (.markup (b.percentage.fixed 1 ++ "%")) (b.percentage.fixed 1 ++ "%") :=
    shows_plain ((plain_fixed _).append (by decide))
  have count := fills_numericCell (shows_plain (plain_toString b.count))
  have cells := (fills_domainCell b.domain).append
    (count.append ((fills_numericCell share).append .nil))
  exact @reads_row false _ _ _ cells

theorem reads_definitionRow (d : Definition) :
    Reads (chars (definitionRow d)) .start (definitionTags (d.isInternal, domainSlug d.effectiveDomain))
      [definitionTexts d] .start := by
  have final : Shows (.markup (finalText d)) (finalText d) := by
    unfold finalText
    split
    · exact shows_plain (by decide)
    · exact shows_yesNo _
  have words := (fills_cell (shows_yesNo d.isInternal)).append ((fills_cell final).append .nil)
  have names := (fills_cell (shows_text (placeOf d))).append
    ((fills_cell (shows_text (d.className.getD ""))).append words)
  exact reads_row ((fills_domainCell d.effectiveDomain).append names)

theorem reads_usageRow (e : UsageEntry) :
    Reads (chars (usageRow e)) .start
      (usageTags (e.definition.map fun d => domainSlug d.effectiveDomain)) [usageTexts e] .start := by
  have count := fills_numericCell (shows_plain (plain_toString e.count))
  have front := (fills_cell (shows_text e.name)).append count
  obtain ⟨name, count, files, definition⟩ := e
  cases definition with
  | some d =>
    have tail := (fills_domainCell d.effectiveDomain).append
      ((fills_cell (shows_text d.fileName)).append .nil)
    exact @reads_row false _ _ _ (front.append tail)
  | none =>
    have empty : Shows (.markup "") "" := shows_plain (by decide)
    have tail := fills_unresolved.append ((fills_cell empty).append .nil)
    exact @reads_row false _ _ _ (front.append tail)

end DomainAtlas.Report
