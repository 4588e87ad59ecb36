import DomainAtlas.Report.Markup
import Mathlib.Tactic.SplitIfs

/-!
# Reading a page

What a reader makes of a page, as far as tags and tables go. A tag goes from `<` to the next `>` outside
of quotes, and all else is text. A row of a table has cells, each with the text between its tags, in
which references stand for characters.

Both passes are machines: they look at their input item by item and give output on the way. So the
parts of a page can be read one after the other (`Reads.append`).

Results:
* `Reads.append`, `Reads.flatMap`: reading parts one after the other.
* `reads_plain`, `reads_closed`: texts without tags, and fixed parts.
* `unescape_escaped`, `escaped_harmless`: escaping is undone by reading, and leaves nothing that is
  markup.
-/
namespace DomainAtlas.Reading

/-! ## Machines -/

/-- A machine goes from state to state with each item, and gives some output. -/
structure Machine (σ α β : Type) where
  next : σ → α → σ
  out : σ → α → List β

namespace Machine

variable {σ α β : Type} (m : Machine σ α β)

def after (s : σ) (items : List α) : σ := items.foldl m.next s

/-- The output on the way. -/
def run (s : σ) : List α → List β
  | [] => []
  | a :: items => m.out s a ++ run (m.next s a) items

@[simp] theorem after_nil (s : σ) : m.after s [] = s := rfl

@[simp] theorem after_cons (s : σ) (a : α) (items : List α) :
    m.after s (a :: items) = m.after (m.next s a) items := rfl

@[simp] theorem run_nil (s : σ) : m.run s [] = [] := rfl

@[simp] theorem run_cons (s : σ) (a : α) (items : List α) :
    m.run s (a :: items) = m.out s a ++ m.run (m.next s a) items := rfl

theorem after_append (s : σ) (items more : List α) :
    m.after s (items ++ more) = m.after (m.after s items) more := List.foldl_append

theorem run_append (s : σ) (items more : List α) :
    m.run s (items ++ more) = m.run s items ++ m.run (m.after s items) more := by
  induction items generalizing s with
  | nil => rfl
  | cons a items ih => rw [List.cons_append, run_cons, run_cons, ih, List.append_assoc, after_cons]

end Machine

/-! ## Tags -/

/-- A tag, or a character of the text around tags. -/
inductive Token where
  | tag (cs : List Char)
  | char (c : Char)
  deriving DecidableEq

/-- Where in a page a character stands. -/
inductive Mode where
  | text
  /-- In a tag, of which this was read. -/
  | tag (part : List Char)
  /-- In the quotes of an attribute. -/
  | quoted (quote : Char) (part : List Char)
  deriving DecidableEq

/-- Finds the tags of a page. -/
def tokenizer : Machine Mode Char Token where
  next
    | .text, c => if c = '<' then .tag [c] else .text
    | .tag part, c =>
      if c = '>' then .text
      else if c = '"' ∨ c = '\'' then .quoted c (part ++ [c]) else .tag (part ++ [c])
    | .quoted quote part, c => if c = quote then .tag (part ++ [c]) else .quoted quote (part ++ [c])
  out
    | .text, c => if c = '<' then [] else [.char c]
    | .tag part, c => if c = '>' then [.tag (part ++ [c])] else []
    | .quoted .., _ => []

/-- The tags and characters of a page. -/
def tokens (cs : List Char) : List Token := tokenizer.run .text cs

/-- A token as a tag. -/
def Token.tag? : Token → Option String
  | .tag cs => some (String.ofList cs)
  | .char _ => none

def tagsOf (ts : List Token) : List String := ts.filterMap Token.tag?

def tags (page : String) : List String := tagsOf (tokens page.toList)

/-! ## Tables -/

/-- A text in which references stand for characters. -/
def unescape : List Char → List Char
  | '&' :: 'a' :: 'm' :: 'p' :: ';' :: rest => '&' :: unescape rest
  | '&' :: 'l' :: 't' :: ';' :: rest => '<' :: unescape rest
  | '&' :: 'g' :: 't' :: ';' :: rest => '>' :: unescape rest
  | '&' :: '#' :: '3' :: '4' :: ';' :: rest => '"' :: unescape rest
  | '&' :: '#' :: '3' :: '9' :: ';' :: rest => '\'' :: unescape rest
  | c :: rest => c :: unescape rest
  | [] => []

/-- What a tag does to a table. -/
inductive TagKind where
  | opensRow
  | closesRow
  | opensCell
  | closesCell
  | other
  deriving DecidableEq

def tagKind (cs : List Char) : TagKind :=
  let name := (cs.drop 1).takeWhile fun c => c.isAlphanum || c == '/'
  if name = ['t', 'r'] then .opensRow
  else if name = ['/', 't', 'r'] then .closesRow
  else if name = ['t', 'd'] ∨ name = ['t', 'h'] then .opensCell
  else if name = ['/', 't', 'd'] ∨ name = ['/', 't', 'h'] then .closesCell
  else .other

/-- The row at hand: the texts of its cells so far, and what was read of the cell at hand. -/
structure Row where
  cells : List String
  content : Option (List Char)
  deriving DecidableEq

/-- Before the first row, and between rows. -/
def Row.start : Row := ⟨[], none⟩

def tables : Machine Row Token (List String) where
  next
    | r, .char c => { r with content := r.content.map (· ++ [c]) }
    | r, .tag cs =>
      match tagKind cs with
      | .opensRow => { r with cells := [] }
      | .closesRow => { r with cells := [] }
      | .opensCell => { r with content := some [] }
      | .closesCell =>
        ⟨r.cells ++ (r.content.map fun cs => String.ofList (unescape cs)).toList, none⟩
      | .other => r
  out
    | _, .char _ => []
    | r, .tag cs => if tagKind cs = .closesRow then [r.cells] else []

/-- The rows of all tables of a page, as the texts of their cells. -/
def grid (page : String) : List (List String) := tables.run .start (tokens page.toList)

/-! ## Reading parts -/

/-- Characters that begin and end in the text around tags are read with these tags and rows, from the
one state of the row at hand to the other. -/
structure Reads (cs : List Char) (before : Row) (ts : List String) (rows : List (List String))
    (after : Row) : Prop where
  closed : tokenizer.after .text cs = .text
  tags : tagsOf (tokens cs) = ts
  rows : tables.run before (tokens cs) = rows
  row : tables.after before (tokens cs) = after

section Parts

variable {cs more : List Char} {a b c : Row} {ts us : List String} {rs ss : List (List String)}

theorem Reads.nil (a : Row) : Reads [] a [] [] a := ⟨rfl, rfl, rfl, rfl⟩

theorem Reads.append (h : Reads cs a ts rs b) (h' : Reads more b us ss c) :
    Reads (cs ++ more) a (ts ++ us) (rs ++ ss) c := by
  have split : tokens (cs ++ more) = tokens cs ++ tokens more := by
    rw [tokens, tokenizer.run_append, h.closed]
    rfl
  refine ⟨?_, ?_, ?_, ?_⟩
  · rw [tokenizer.after_append, h.closed, h'.closed]
  · rw [split, tagsOf, List.filterMap_append, ← tagsOf, ← tagsOf, h.tags, h'.tags]
  · rw [split, tables.run_append, h.rows, h.row, h'.rows]
  · rw [split, tables.after_append, h.row, h'.row]

theorem Reads.flatMap {α : Type} {xs : List α} {f : α → List Char} {g : α → List String}
    {r : α → List (List String)} (h : ∀ x ∈ xs, Reads (f x) a (g x) (r x) a) :
    Reads (xs.flatMap f) a (xs.flatMap g) (xs.flatMap r) a := by
  induction xs with
  | nil => exact .nil a
  | cons x xs ih =>
    simp only [List.forall_mem_cons] at h
    simp only [List.flatMap_cons]
    exact h.1.append (ih h.2)

/-- A part that was tokenized. -/
theorem reads_of_tokens {found : List Token} (closed : tokenizer.after .text cs = .text)
    (h : tokens cs = found) :
    Reads cs a (tagsOf found) (tables.run a found) (tables.after a found) :=
  h ▸ ⟨closed, rfl, rfl, rfl⟩

/-- A part that leaves a page between rows has these rows. -/
def Closed (cs : List Char) (rows : List (List String)) : Prop :=
  tokenizer.after .text cs = .text ∧ tables.after .start (tokens cs) = .start ∧
    tables.run .start (tokens cs) = rows

instance (cs : List Char) (rows : List (List String)) : Decidable (Closed cs rows) := by
  unfold Closed
  infer_instance

/-- A fixed part, given by its letters. -/
theorem reads_closed {m : String} (letters : m = String.ofList cs) (h : Closed cs rs) :
    Reads m.toList .start (Reading.tags m) rs .start := by
  rw [Reading.tags, letters, String.toList_ofList]
  exact ⟨h.1, rfl, h.2.2, h.2.1⟩

/-- Characters that open no tag. -/
def Untagged (cs : List Char) : Prop := ∀ c ∈ cs, c ≠ '<'

instance (cs : List Char) : Decidable (Untagged cs) := List.decidableBAll _ _

/-- A text without tags goes into the cell at hand, if there is one. -/
theorem reads_plain (h : Untagged cs) :
    Reads cs a [] [] { a with content := a.content.map (· ++ cs) } := by
  induction cs generalizing a with
  | nil => simpa using Reads.nil a
  | cons c cs ih =>
    simp only [Untagged, List.forall_mem_cons] at h
    have one : Reads [c] a [] [] { a with content := a.content.map (· ++ [c]) } := by
      have found : tokens [c] = [.char c] := by simp [tokens, tokenizer, h.1]
      refine reads_of_tokens ?_ found
      simp [tokenizer, h.1]
    simpa [Function.comp_def] using one.append (ih h.2)

end Parts

/-! ## Texts from outside -/

theorem unescape_cons {c : Char} (h : c ≠ '&') (rest : List Char) :
    unescape (c :: rest) = c :: unescape rest := by
  rw [unescape.eq_def]
  split <;> simp_all

theorem unescape_of_notMem {cs : List Char} (h : ∀ c ∈ cs, c ≠ '&') : unescape cs = cs := by
  induction cs with
  | nil => rfl
  | cons c cs ih =>
    simp only [List.forall_mem_cons] at h
    rw [unescape_cons h.1, ih h.2]

theorem unescape_escapedChar (c : Char) (rest : List Char) :
    unescape (escapedChar c ++ rest) = c :: unescape rest := by
  unfold escapedChar
  split_ifs with amp lt gt quot apos
  · rw [amp]; rfl
  · rw [lt]; rfl
  · rw [gt]; rfl
  · rw [quot]; rfl
  · rw [apos]; rfl
  · exact unescape_cons amp rest

/-- A text that was escaped reads as it was. -/
theorem unescape_escaped (s : String) : unescape (escaped s).toList = s.toList := by
  rw [escaped, String.toList_ofList]
  induction s.toList with
  | nil => rfl
  | cons c cs ih => rw [List.flatMap_cons, unescape_escapedChar, ih]

example : escaped "<a id=\"x\">&amp;" = "&lt;a id=&#34;x&#34;&gt;&amp;amp;" := by decide +kernel

/-- Characters that begin or end tags and attributes. -/
def IsMarkup (c : Char) : Prop := c = '<' ∨ c = '>' ∨ c = '"' ∨ c = '\''

instance (c : Char) : Decidable (IsMarkup c) := by
  unfold IsMarkup
  infer_instance

theorem escaped_harmless (s : String) : ∀ c ∈ (escaped s).toList, ¬ IsMarkup c := by
  intro c among
  rw [escaped, String.toList_ofList] at among
  obtain ⟨d, -, own⟩ := List.mem_flatMap.mp among
  have reference {cs : List Char} (h : cs.all (fun c => !decide (IsMarkup c)) = true) (own : c ∈ cs) :
      ¬ IsMarkup c := by
    simpa using List.all_eq_true.mp h c own
  unfold escapedChar at own
  split_ifs at own with amp lt gt quot apos
  · exact reference (by decide) own
  · exact reference (by decide) own
  · exact reference (by decide) own
  · exact reference (by decide) own
  · exact reference (by decide) own
  · obtain rfl := List.mem_singleton.mp own
    rintro (h | h | h | h)
    · exact lt h
    · exact gt h
    · exact quot h
    · exact apos h

/-- A slug has letters, digits, underscores and dashes only. -/
theorem isSlugChar_of_mem (domain : String) :
    ∀ c ∈ (domainSlug domain).toList, isSlugChar c = true := by
  intro c among
  rw [domainSlug, String.toList_ofList] at among
  obtain ⟨d, -, own⟩ := List.mem_flatMap.mp among
  have dash : isSlugChar '-' = true := by decide
  unfold slugChar at own
  split_ifs at own with twice kept
  · simp only [List.mem_cons, List.not_mem_nil, or_false, or_self] at own
    exact own ▸ dash
  · exact List.mem_singleton.mp own ▸ kept
  · exact List.mem_singleton.mp own ▸ dash

end DomainAtlas.Reading
