import DomainAtlas.Console.Status
import DomainAtlas.Proofs.Console.Styling
import DomainAtlas.Proofs.Console.Wrapping

/-!
# What is shown of a status message

A status message is read as marked-up text. One in which the console finds nothing to interpret
(`Verbatim`) is shown with its own characters, behind the indent and the symbol of its style. Nothing
else is: a tag in a message is taken for a style and disappears, a closing tag that ends nothing makes
the console fail, and so does a mixed colour it cannot read. A message without closing tags and without
parentheses in its tags (`Soft`) never does.

Results:
* `Markup.plain_of_verbatim`: what remains of a text without anything to interpret.
* `Markup.exists_remaining`: parts that end no passage and mix no colours never fail.
* `Status.text_shown`: what is shown of a status message.
-/
namespace DomainAtlas.Console

open Text

namespace Markup

/-! ## Tags -/

/-- What is taken for a tag. -/
def IsTag (t : List Char) : Prop :=
  ∃ c body, t = '[' :: c :: (body ++ [']']) ∧ opensTag c = true ∧ ∀ d ∈ body, inTag d = true

/-- What is taken for the end of a styled passage. -/
def IsClosing (t : List Char) : Prop :=
  ∃ body, t = '[' :: '/' :: (body ++ [']']) ∧ ∀ d ∈ body, inTag d = true

/-- Nothing in a text is interpreted: there is no tag, no backslash before a square bracket, no code that
a pictograph is drawn for, and no character that a terminal would act on. -/
structure Verbatim (cs : List Char) : Prop where
  noTag : ∀ t, IsTag t → ¬ t <:+: cs
  noEscape : ¬ ['\\', '['] <:+: cs
  noCode : ∀ code, (∀ c ∈ code, inCode c = true) → ':' :: (code ++ [':']) <:+: cs →
    drawn code = ':' :: (code ++ [':'])
  printable : ∀ c ∈ cs, isControl c = false ∧ c ≠ '\t'

/-- A tag that is found stands there. -/
theorem infix_of_tagAt? {cs : List Char} {f : Found} (h : tagAt? cs = some f) :
    IsTag ('[' :: (f.body ++ [']'])) ∧ '[' :: (f.body ++ [']']) <:+: cs ∧ f.rest <:+ cs := by
  unfold tagAt? at h
  have whole := List.takeWhile_append_dropWhile (p := (· == '\\')) (l := cs)
  split at h
  next c after front =>
    rw [front] at whole
    split at h
    next opens =>
      have inner := List.takeWhile_append_dropWhile (p := inTag) (l := after)
      split at h
      next rest ended =>
        rw [ended] at inner
        cases h
        refine ⟨⟨c, after.takeWhile inTag, rfl, opens, ?_⟩, ?_, ?_⟩
        · exact List.all_eq_true.1 List.all_takeWhile
        · refine ⟨cs.takeWhile (· == '\\'), rest, ?_⟩
          rw [← inner] at whole
          simpa using whole
        · refine ⟨cs.takeWhile (· == '\\') ++ '[' :: c :: (after.takeWhile inTag ++ [']']), ?_⟩
          rw [← inner] at whole
          simpa using whole
      next => cases h
    next => cases h
  next => cases h

theorem tagAt?_of_ne {c : Char} (bracket : c ≠ '[') (slash : c ≠ '\\') (cs : List Char) :
    tagAt? (c :: cs) = none := by
  unfold tagAt?
  rw [List.dropWhile_cons_of_neg (by simpa using slash)]
  split
  next same =>
    cases same
    exact absurd rfl bracket
  next => rfl

theorem tagAt?_of_tag {c : Char} {body : List Char} (opens : opensTag c = true)
    (inside : ∀ d ∈ body, inTag d = true) (rest : List Char) :
    tagAt? ('[' :: c :: (body ++ ']' :: rest)) = some ⟨0, c :: body, rest⟩ := by
  have stop : inTag ']' = false := by decide
  have dropped : (body ++ ']' :: rest).dropWhile inTag = ']' :: rest := by
    rw [List.dropWhile_append_of_pos inside, List.dropWhile_cons_of_neg (by simp [stop])]
  have taken : (body ++ ']' :: rest).takeWhile inTag = body := by
    rw [List.takeWhile_append_of_pos inside, List.takeWhile_cons_of_neg (by simp [stop]), List.append_nil]
  simp [tagAt?, opens, dropped, taken]

/-! ## Parts -/

/-- A text without tags is one piece. -/
theorem partsFrom_of_untagged {cs : List Char} (noTag : ∀ t, IsTag t → ¬ t <:+: cs) (position : Nat)
    (pending : List Char) : partsFrom position pending cs = piece (pending.reverse ++ cs) := by
  induction cs generalizing position pending with
  | nil => rw [partsFrom, List.append_nil]
  | cons c cs ih =>
    have none : tagAt? (c :: cs) = none := by
      cases found : tagAt? (c :: cs) with
      | none => rfl
      | some f =>
        obtain ⟨tag, here, -⟩ := infix_of_tagAt? found
        exact absurd here (noTag _ tag)
    rw [partsFrom]
    split
    · rw [ih (fun t tag inside => noTag t tag (inside.trans (List.suffix_cons c cs).isInfix))]
      simp
    · next found =>
      rw [none] at found
      cases found

/-- Characters that begin no tag are kept for the next piece. -/
theorem partsFrom_append {front : List Char} (plain : ∀ c ∈ front, c ≠ '[' ∧ c ≠ '\\')
    (position : Nat) (pending cs : List Char) :
    partsFrom position pending (front ++ cs) =
      partsFrom (position + front.length) (front.reverse ++ pending) cs := by
  induction front generalizing position pending with
  | nil => rfl
  | cons c front ih =>
    rw [List.forall_mem_cons] at plain
    rw [List.cons_append, partsFrom]
    split
    · rw [ih plain.2, List.length_cons, List.reverse_cons, List.append_assoc, Nat.add_assoc,
        Nat.add_comm 1]
      rfl
    · next found =>
      rw [tagAt?_of_ne plain.1.1 plain.1.2] at found
      cases found

theorem partsFrom_tag {c : Char} {body : List Char} (opens : opensTag c = true)
    (inside : ∀ d ∈ body, inTag d = true) (position : Nat) (pending rest : List Char) :
    partsFrom position pending ('[' :: c :: (body ++ ']' :: rest)) = piece pending.reverse ++
      tagOf position (c :: body) :: partsFrom (position + (c :: body).length + 2) [] rest := by
  rw [partsFrom]
  split
  · next none =>
    rw [tagAt?_of_tag opens inside] at none
    cases none
  · next found =>
    rw [tagAt?_of_tag opens inside] at found
    cases found
    simp [piece]

/-- A part does not end a styled passage, and no parenthesis stands in it if it is a tag. -/
structure Part.Soft (p : Part) : Prop where
  stays : ∀ position name argument, p = .tag position name argument → name.head? ≠ some '/'
  free : p.Free

theorem soft_text (cs : List Char) : (Part.text cs).Soft := ⟨by simp, trivial⟩

theorem soft_tagOf {body : List Char} (head : body.head? ≠ some '/') (free : Free body)
    (position : Nat) : (tagOf position body).Soft := by
  unfold tagOf
  split
  next argument found =>
    have sub := (List.dropWhile_sublist (· != '=') (l := body)).subset
    rw [found] at sub
    refine ⟨?_, free.mono (List.takeWhile_sublist _).subset, ?_⟩
    · rintro _ _ _ ⟨⟩ first
      cases body with
      | nil => cases first
      | cons c body =>
        rw [List.takeWhile_cons] at first
        split at first
        · exact head first
        · cases first
    · rintro a ⟨⟩
      exact free.mono fun c mem => sub (List.mem_cons_of_mem _ mem)
  next => exact ⟨by rintro _ _ _ ⟨⟩; exact head, free, by simp⟩

theorem soft_of_mem_piece {cs : List Char} {p : Part} (h : p ∈ piece cs) : p.Soft := by
  unfold piece at h
  split at h
  · cases h
  · rw [List.mem_singleton] at h
    rw [h]
    exact soft_text cs

/-- There are no closing tags in a text, and no parentheses in its tags. -/
structure Soft (cs : List Char) : Prop where
  noClosing : ∀ t, IsClosing t → ¬ t <:+: cs
  noMixture : ∀ t, IsTag t → '(' ∈ t → ¬ t <:+: cs

theorem Soft.inside {cs ds : List Char} (h : Soft cs) (inside : ds <:+: cs) : Soft ds where
  noClosing t closing mem := h.noClosing t closing (mem.trans inside)
  noMixture t tag paren mem := h.noMixture t tag paren (mem.trans inside)

/-- Then no part ends a passage or has a parenthesis in a tag. -/
theorem soft_of_mem_partsFrom {cs : List Char} (soft : Soft cs) (position : Nat)
    (pending : List Char) : ∀ p ∈ partsFrom position pending cs, p.Soft := by
  induction position, pending, cs using partsFrom.induct with
  | case1 position pending =>
    intro p mem
    rw [partsFrom] at mem
    exact soft_of_mem_piece mem
  | case2 position pending c cs none ih =>
    rw [partsFrom]
    split
    · exact ih (soft.inside (List.suffix_cons c cs).isInfix)
    · next found =>
      rw [none] at found
      cases found
  | case3 position pending c cs f found next ih =>
    obtain ⟨tag, here, behind⟩ := infix_of_tagAt? found
    have free : Free f.body := fun mem =>
      soft.noMixture _ tag (List.mem_cons_of_mem _ (List.mem_append_left _ mem)) here
    obtain ⟨d, body, whole, -, inside⟩ := tag
    have head : f.body.head? ≠ some '/' := by
      have same : f.body = d :: body := List.append_cancel_right (List.cons.inj whole).2
      rw [same]
      intro slash
      cases slash
      exact soft.noClosing _ ⟨body, whole, inside⟩ here
    have rest := ih (soft.inside behind.isInfix)
    rw [partsFrom]
    split
    · next none =>
      rw [found] at none
      cases none
    · next other =>
      rw [found] at other
      cases other
      simp only [List.forall_mem_append, List.forall_mem_cons]
      refine ⟨⟨fun p => soft_of_mem_piece, fun p => soft_of_mem_piece⟩, ?_, rest⟩
      split
      · exact soft_text _
      · exact soft_tagOf head free _

/-! ## Plain text -/

theorem exists_plainOf (opened : List String) {ps : List Part} (h : ∀ p ∈ ps, p.Soft) :
    ∃ cs, plainOf opened ps = .ok cs := by
  induction ps generalizing opened with
  | nil => exact ⟨[], rfl⟩
  | cons p ps ih =>
    rw [List.forall_mem_cons] at h
    cases p with
    | text cs =>
      obtain ⟨rest, ok⟩ := ih opened h.2
      exact ⟨shown (unescape cs) ++ rest, by rw [plainOf, ok]; rfl⟩
    | tag position name argument =>
      unfold plainOf
      split
      · next closing => exact absurd rfl (h.1.stays _ _ _ rfl)
      · obtain ⟨style, ok, -⟩ := exists_nameOf (s := String.ofList name) (by simpa using h.1.free.1)
        rw [ok]
        exact ih _ h.2

theorem forM_lookUp_append {front : List Part} (h : ∀ p ∈ front, p.Free) (ps : List Part) :
    forM (front ++ ps) lookUp = forM ps lookUp := by
  induction front with
  | nil => rfl
  | cons p front ih =>
    rw [List.forall_mem_cons] at h
    rw [List.cons_append, List.forM_cons, lookUp_of_free h.1]
    exact ih h.2

theorem forM_lookUp {ps : List Part} (h : ∀ p ∈ ps, p.Free) : forM ps lookUp = .ok () := by
  have all := forM_lookUp_append h []
  rwa [List.append_nil] at all

/-- Parts that end no passage and mix no colours never fail. -/
theorem exists_remaining {ps : List Part} (h : ∀ p ∈ ps, p.Soft) : ∃ cs, remaining ps = .ok cs := by
  obtain ⟨cs, ok⟩ := exists_plainOf [] h
  exact ⟨cs, by rw [remaining, ok, forM_lookUp fun p mem => (h p mem).free]; rfl⟩

theorem plainOf_piece (opened : List String) (cs : List Char) (ps : List Part) :
    plainOf opened (piece cs ++ ps) = (plainOf opened ps).map (shown (unescape cs) ++ ·) := by
  cases cs with
  | nil =>
    have nothing : shown (unescape []) = [] := by
      rw [unescape, shown, drawAll]
      rfl
    have none : piece [] ++ ps = ps := rfl
    rw [nothing, none]
    cases plainOf opened ps <;> rfl
  | cons c cs => rfl

theorem unescape_of_noEscape {cs : List Char} (h : ¬ ['\\', '['] <:+: cs) : unescape cs = cs := by
  induction cs using unescape.induct with
  | case1 cs ih => exact absurd ⟨[], cs, rfl⟩ h
  | case2 c cs other ih =>
    rw [unescape, ih fun inside => h (inside.trans (List.suffix_cons c cs).isInfix)]
    exact other
  | case3 => rfl

theorem drawAll_of_noCode {cs : List Char} (h : ∀ code, (∀ c ∈ code, inCode c = true) →
    ':' :: (code ++ [':']) <:+: cs → drawn code = ':' :: (code ++ [':'])) : drawAll cs = cs := by
  induction cs using drawAll.induct with
  | case1 => rw [drawAll]
  | case2 cs rest front ih =>
    have inner := List.takeWhile_append_dropWhile (p := inCode) (l := cs)
    rw [front] at inner
    have code : ':' :: (cs.takeWhile inCode ++ [':']) <:+: ':' :: cs :=
      ⟨[], rest, by simpa using inner⟩
    have behind : rest <:+: ':' :: cs :=
      (List.IsSuffix.trans ⟨cs.takeWhile inCode ++ [':'], by simpa using inner⟩
        (List.suffix_cons ':' cs)).isInfix
    have kept := h _ (List.all_eq_true.1 List.all_takeWhile) code
    rw [drawAll, if_pos rfl]
    split
    · next other found =>
      rw [front] at found
      cases found
      rw [kept, ih fun code inside mem => h code inside (mem.trans behind)]
      simpa using inner
    · next other => exact absurd front (other rest)
  | case3 cs other ih =>
    rw [drawAll, if_pos rfl]
    split
    · next found => exact absurd found (other _)
    · rw [ih fun code inside mem => h code inside (mem.trans (List.suffix_cons _ cs).isInfix)]
  | case4 c cs plain ih =>
    rw [drawAll, if_neg plain,
      ih fun code inside mem => h code inside (mem.trans (List.suffix_cons c cs).isInfix)]

theorem shown_of_verbatim {cs : List Char} (v : Verbatim cs) : shown (unescape cs) = cs := by
  rw [unescape_of_noEscape v.noEscape, shown, drawAll_of_noCode v.noCode, List.filter_eq_self]
  intro c mem
  rw [(v.printable c mem).1]
  rfl

/-- A text of one piece. -/
theorem remaining_piece {cs : List Char} (v : Verbatim cs) : remaining (piece cs) = .ok cs := by
  have whole := plainOf_piece [] cs []
  rw [List.append_nil, shown_of_verbatim v, plainOf] at whole
  rw [remaining, whole, forM_lookUp fun p mem => (soft_of_mem_piece mem).free]
  show Except.ok (cs ++ []) = .ok cs
  rw [List.append_nil]

theorem plain_of_verbatim {cs : List Char} (v : Verbatim cs) : plain cs = .ok cs := by
  rw [plain]
  split
  · rw [parts, partsFrom_of_untagged v.noTag]
    exact remaining_piece v
  · have same := shown_of_verbatim v
    rw [unescape_of_noEscape v.noEscape] at same
    rw [same]

/-! ## Indents -/

/-- What begins with no space is found behind spaces where it is found without them. -/
theorem infix_of_spaces {n : Nat} {c : Char} {t cs : List Char} (other : c ≠ ' ')
    (h : c :: t <:+: spaces n ++ cs) : c :: t <:+: cs := by
  induction n with
  | zero => exact h
  | succ n ih =>
    rw [spaces, List.replicate_succ, List.cons_append, List.infix_cons_iff] at h
    rcases h with ⟨rest, front⟩ | behind
    · exact absurd (List.cons.inj front).1 other
    · exact ih behind

theorem verbatim_nil : Verbatim [] where
  noTag := by
    intro t ⟨c, body, whole, _⟩ here
    rw [whole, List.infix_nil] at here
    cases here
  noEscape := by simp
  noCode := by simp
  printable := by simp

theorem Verbatim.spaces {cs : List Char} (v : Verbatim cs) (n : Nat) : Verbatim (spaces n ++ cs) where
  noTag := by
    rintro _ ⟨c, body, rfl, opens, inside⟩ here
    exact v.noTag _ ⟨c, body, rfl, opens, inside⟩ (infix_of_spaces (by decide) here)
  noEscape here := v.noEscape (infix_of_spaces (by decide) here)
  noCode code inside here := v.noCode code inside (infix_of_spaces (by decide) here)
  printable := by
    rw [List.forall_mem_append]
    refine ⟨fun c mem => ?_, v.printable⟩
    rw [List.eq_of_mem_replicate mem]
    decide

theorem Soft.spaces {cs : List Char} (h : Soft cs) (n : Nat) : Soft (spaces n ++ cs) where
  noClosing := by
    rintro _ ⟨body, rfl, inside⟩ here
    exact h.noClosing _ ⟨body, rfl, inside⟩ (infix_of_spaces (by decide) here)
  noMixture := by
    rintro _ ⟨c, body, rfl, opens, inside⟩ paren here
    exact h.noMixture _ ⟨c, body, rfl, opens, inside⟩ paren (infix_of_spaces (by decide) here)

/-! ## Styled symbols -/

theorem tagOf_of_noArgument {body : List Char} (h : ∀ d ∈ body, d ≠ '=') (position : Nat) :
    tagOf position body = .tag position body none := by
  have none : body.dropWhile (· != '=') = [] :=
    List.dropWhile_eq_nil_iff.2 fun d mem => by simpa using h d mem
  rw [tagOf, none]

/-- A character that is styled by a passage of its own, up to the closing tag of the same name. -/
structure Styled (c : Char) (name : List Char) (symbol : Char) : Prop where
  opens : opensTag c = true
  starts : c ≠ '/'
  inside : ∀ d ∈ c :: name, inTag d = true
  noArgument : ∀ d ∈ c :: name, d ≠ '='
  free : Free (c :: name)
  trimmed : trimBy isBlank (c :: name) = c :: name
  plain : symbol ≠ '[' ∧ symbol ≠ '\\'
  shown : shown (unescape [symbol]) = [symbol]

def passage (c : Char) (name : List Char) (symbol : Char) (rest : List Char) : List Char :=
  '[' :: c :: (name ++ ']' :: symbol :: '[' :: '/' :: (c :: name ++ ']' :: rest))

theorem partsFrom_passage {c : Char} {name : List Char} {symbol : Char} (h : Styled c name symbol)
    (position : Nat) (pending rest : List Char) :
    ∃ ended next, partsFrom position pending (passage c name symbol rest) =
      piece pending.reverse ++ .tag position (c :: name) none ::
        (piece [symbol] ++ .tag ended ('/' :: c :: name) none :: partsFrom next [] rest) := by
  have inside := List.forall_mem_cons.1 h.inside
  have slash : opensTag '/' = true := by decide
  have closing : ∀ d ∈ '/' :: c :: name, d ≠ '=' := List.forall_mem_cons.2 ⟨by decide, h.noArgument⟩
  have between : partsFrom (position + (c :: name).length + 2) []
      (symbol :: '[' :: '/' :: (c :: name ++ ']' :: rest)) = partsFrom
        (position + (c :: name).length + 2 + 1) [symbol] ('[' :: '/' :: (c :: name ++ ']' :: rest)) :=
    partsFrom_append (List.forall_mem_singleton.2 h.plain) _ [] _
  rw [passage, partsFrom_tag h.opens inside.2, between, partsFrom_tag slash h.inside,
    tagOf_of_noArgument h.noArgument, tagOf_of_noArgument closing, List.reverse_singleton]
  exact ⟨_, _, rfl⟩

/-- The character is all that is shown of it, and no passage is open behind it. -/
theorem remaining_passage {c : Char} {name : List Char} {symbol : Char} (h : Styled c name symbol)
    (position : Nat) (pending rest : List Char) :
    ∃ next, remaining (partsFrom position pending (passage c name symbol rest)) =
      (remaining (partsFrom next [] rest)).map
        (Markup.shown (unescape pending.reverse) ++ [symbol] ++ ·) := by
  obtain ⟨ended, next, all⟩ := partsFrom_passage h position pending rest
  refine ⟨next, ?_⟩
  rw [all]
  generalize partsFrom next [] rest = ps
  obtain ⟨style, ok, -⟩ := exists_nameOf (s := String.ofList (c :: name)) (by simpa using h.free)
  have closed : plainOf [style] (.tag ended ('/' :: c :: name) none :: ps) = plainOf [] ps := by
    have found : close? style [style] = some [] := by rw [close?, if_pos rfl]
    simp only [plainOf, h.trimmed, reduceCtorEq, if_false, strip, String.toList_ofList, ok,
      bind, Except.bind, found]
  have symbolShown : plainOf [style] (piece [symbol] ++ .tag ended ('/' :: c :: name) none :: ps) =
      (plainOf [] ps).map ([symbol] ++ ·) := by
    rw [plainOf_piece, h.shown, closed]
  have opened : plainOf [] (.tag position (c :: name) none ::
      (piece [symbol] ++ .tag ended ('/' :: c :: name) none :: ps)) =
        (plainOf [] ps).map ([symbol] ++ ·) := by
    rw [plainOf, ok]
    · exact symbolShown
    · intro other same
      exact h.starts (List.cons.inj same).1
  have looked : forM (piece pending.reverse ++ .tag position (c :: name) none ::
      (piece [symbol] ++ .tag ended ('/' :: c :: name) none :: ps)) lookUp = forM ps lookUp := by
    have free : Part.Free (.tag position (c :: name) none) := ⟨h.free, by simp⟩
    have freeEnd : Part.Free (.tag ended ('/' :: c :: name) none) :=
      ⟨free_cons.2 ⟨by decide, h.free⟩, by simp⟩
    rw [forM_lookUp_append fun p mem => (soft_of_mem_piece mem).free, List.forM_cons,
      lookUp_of_free free]
    show forM (piece [symbol] ++ _) lookUp = _
    rw [forM_lookUp_append fun p mem => (soft_of_mem_piece mem).free, List.forM_cons,
      lookUp_of_free freeEnd]
    rfl
  rw [remaining, plainOf_piece, opened, looked, remaining]
  cases plainOf [] ps <;> cases forM ps lookUp <;> simp [Except.map, bind, Except.bind, pure, Except.pure]

/-- The same behind an indent. -/
theorem plain_passage {c : Char} {name : List Char} {symbol : Char} (h : Styled c name symbol) (n : Nat)
    (rest : List Char) : ∃ next, plain (spaces n ++ passage c name symbol rest) =
      (remaining (partsFrom next [] rest)).map (spaces n ++ [symbol] ++ ·) := by
  have noTag : ∀ c ∈ spaces n, c ≠ '[' ∧ c ≠ '\\' := by
    intro c mem
    rw [List.eq_of_mem_replicate mem]
    decide
  have indent : Markup.shown (unescape (spaces n)) = spaces n := by
    have v := verbatim_nil.spaces n
    rw [List.append_nil] at v
    exact shown_of_verbatim v
  have bracket : (spaces n ++ passage c name symbol rest).contains '[' := by simp [passage]
  obtain ⟨next, all⟩ := remaining_passage h (0 + (spaces n).length) ((spaces n).reverse ++ []) rest
  rw [List.append_nil, List.reverse_reverse, indent] at all
  rw [plain, if_pos bracket, parts, partsFrom_append noTag, List.append_nil, all]
  exact ⟨next, rfl⟩

/-- Most messages have no square brackets and no colons. -/
theorem verbatim_of_notMem {cs : List Char} (bracket : '[' ∉ cs) (colon : ':' ∉ cs)
    (printable : ∀ c ∈ cs, isControl c = false ∧ c ≠ '\t') : Verbatim cs where
  noTag := by
    intro t ⟨c, body, whole, _⟩ here
    rw [whole] at here
    exact bracket (here.subset List.mem_cons_self)
  noEscape here := bracket (here.subset (List.mem_cons_of_mem _ List.mem_cons_self))
  noCode _ _ here := absurd (here.subset List.mem_cons_self) colon
  printable := printable

end Markup

/-! ## Status messages -/

open Markup

namespace Status

def symbol : String → String
  | "success" => "✓ "
  | "error" => "✗ "
  | "warning" => "! "
  | "info" => "  "
  | _ => ""

theorem tab_notMem_symbol (style : String) : '\t' ∉ (symbol style).toList := by
  unfold symbol
  split <;> decide

/-- What a message becomes that follows some spaces: it is shown in full if nothing in it is interpreted,
and a soft one never fails. -/
theorem remaining_message (n position : Nat) (message : List Char) :
    (Verbatim message → remaining (partsFrom position [] (spaces n ++ message)) =
      .ok (spaces n ++ message)) ∧
    (Soft message → ∃ cs, remaining (partsFrom position [] (spaces n ++ message)) = .ok cs) := by
  constructor
  · intro v
    have all := v.spaces n
    rw [partsFrom_of_untagged all.noTag]
    exact remaining_piece all
  · intro soft
    exact exists_remaining (soft_of_mem_partsFrom (soft.spaces n) position [])

/-- How a style is marked, and what is shown of that: a styled symbol and a space, or spaces only. -/
inductive Marked : List Char → List Char → Prop where
  | styled {c : Char} {name : List Char} {symbol : Char} (h : Styled c name symbol) :
    Marked (passage c name symbol [' ']) [symbol, ' ']
  | blank (n : Nat) : Marked (spaces n) (spaces n)

theorem shown_singleton {c : Char} (other : c ≠ ':') (h : isControl c = false) :
    shown (unescape [c]) = [c] := by
  have same : unescape [c] = [c] := by
    rw [unescape, unescape]
    simp
  rw [same, shown, drawAll, if_neg other, drawAll]
  simp [h]

theorem marked (style : String) : Marked (statusMark style).toList (symbol style).toList := by
  have green : Styled 'g' ['r', 'e', 'e', 'n'] '✓' :=
    ⟨by decide, by decide, by simp [inTag], by simp, by simp, by decide, by decide,
      shown_singleton (by decide) (by decide)⟩
  have red : Styled 'r' ['e', 'd'] '✗' :=
    ⟨by decide, by decide, by simp [inTag], by simp, by simp, by decide, by decide,
      shown_singleton (by decide) (by decide)⟩
  have yellow : Styled 'y' ['e', 'l', 'l', 'o', 'w'] '!' :=
    ⟨by decide, by decide, by simp [inTag], by simp, by simp, by decide, by decide,
      shown_singleton (by decide) (by decide)⟩
  unfold statusMark
  split
  · exact .styled green
  · exact .styled red
  · exact .styled yellow
  · exact .blank 2
  · have none : symbol style = "" := by
      unfold symbol
      split <;> first | rfl | contradiction
    rw [none]
    exact .blank 0

/-- What is read of a message behind the indent and the mark of its style. -/
theorem plain_markup (s : Status) :
    (Verbatim s.message.toList → plain s.markup.toList =
      .ok (spaces s.indent ++ (symbol s.style).toList ++ s.message.toList)) ∧
    (Soft s.message.toList → ∃ cs, plain s.markup.toList = .ok cs) := by
  have whole : s.markup.toList =
      spaces s.indent ++ (statusMark s.style).toList ++ s.message.toList := by
    simp [markup]
  rw [whole]
  generalize hmark : (statusMark s.style).toList = mark
  generalize hsymbol : (symbol s.style).toList = sym
  have m := marked s.style
  rw [hmark, hsymbol] at m
  cases m with
  | blank n =>
    have together : spaces s.indent ++ spaces n = spaces (s.indent + n) := List.replicate_append_replicate
    rw [together]
    refine ⟨fun v => plain_of_verbatim (v.spaces _), fun soft => ?_⟩
    rw [plain]
    split
    · exact (remaining_message _ 0 _).2 soft
    · exact ⟨_, rfl⟩
  | @styled c name symbol h =>
    have behind : spaces s.indent ++ passage c name symbol [' '] ++ s.message.toList =
        spaces s.indent ++ passage c name symbol (spaces 1 ++ s.message.toList) := by
      simp [passage, spaces]
    obtain ⟨next, all⟩ := plain_passage h s.indent (spaces 1 ++ s.message.toList)
    rw [behind, all]
    constructor
    · intro v
      rw [(remaining_message 1 next _).1 v]
      simp [Except.map, spaces]
    · intro soft
      obtain ⟨cs, ok⟩ := (remaining_message 1 next _).2 soft
      exact ⟨_, by rw [ok]; rfl⟩

/-- What is shown of a status message. Without closing tags and without parentheses in its tags nothing
fails. A message in which nothing is interpreted is shown with its own characters behind the indent and
the symbol of its style, broken into lines for the console. -/
theorem text_shown (s : Status) (columns : Nat) :
    (Soft s.message.toList → ∃ out, s.text columns = .ok out) ∧
    (2 ≤ columns → Verbatim s.message.toList →
      ∃ shown : List (List (List Char)), s.text columns = .ok (unlines shown.flatten) ∧
        List.Forall₂ (Broken columns)
          (splitChars '\n' (spaces s.indent ++ (symbol s.style).toList ++ s.message.toList)) shown) := by
  obtain ⟨read, never⟩ := plain_markup s
  constructor
  · intro soft
    obtain ⟨cs, ok⟩ := never soft
    exact ⟨_, by rw [text, printed, ok]; rfl⟩
  · intro wide v
    have noTab : '\t' ∉ spaces s.indent ++ (symbol s.style).toList ++ s.message.toList := by
      simp only [List.mem_append, not_or]
      refine ⟨⟨fun mem => ?_, tab_notMem_symbol s.style⟩, fun mem => (v.printable _ mem).2 rfl⟩
      cases List.eq_of_mem_replicate mem
    exact ⟨_, by rw [text, printed, read v]; rfl, broken_wrap wide noTab⟩

def listed (path : String) : Status := ⟨path, "info", 4⟩

theorem text_shown_listed : Soft (listed "src/a.php").message.toList ∧ 2 ≤ 80 ∧
    Verbatim (listed "src/a.php").message.toList ∧
    (listed "src/a.php").text 80 = .ok "      src/a.php\n" := by
  have v : Verbatim (listed "src/a.php").message.toList :=
    verbatim_of_notMem (by decide) (by decide) (by simp [isControl, listed])
  have soft : Soft (listed "src/a.php").message.toList := by
    constructor
    · rintro t ⟨body, whole, inside⟩
      exact v.noTag t ⟨'/', body, whole, by decide, inside⟩
    · intro t tag _
      exact v.noTag t tag
  obtain ⟨shown, text, lines⟩ := (text_shown (listed "src/a.php") 80).2 (by decide) v
  refine ⟨soft, by decide, v, ?_⟩
  rw [splitChars_of_notMem (by decide)] at lines
  cases lines with | cons broken none
  cases none
  rw [text, broken.whole (by decide) (by decide)]
  rfl

/-- A path with a tag in it is shown without the tag, or not at all. -/
theorem text_listed_tag : (listed "pages/[id].ts").text 80 = .ok "      pages/.ts\n" ∧
    (listed "[/x].php").text 80 = .error (.unmatched "[/x]" 6) ∧
    (listed "[rgb(1,,3)].ts").text 80 = .error (.shade .empty) := by
  refine ⟨?_, ?_, ?_⟩
  · have read : parts (listed "pages/[id].ts").markup.toList =
        [.text "      pages/".toList, .tag 12 "id".toList none, .text ".ts".toList] := by cbv
    have front : shown (unescape "      pages/".toList) = "      pages/".toList :=
      shown_of_verbatim (verbatim_of_notMem (by decide) (by decide) (by simp [isControl]))
    have back : shown (unescape ".ts".toList) = ".ts".toList :=
      shown_of_verbatim (verbatim_of_notMem (by decide) (by decide) (by simp [isControl]))
    obtain ⟨style, ok, -⟩ := exists_nameOf (s := String.ofList "id".toList) (by decide)
    have free : ∀ p ∈ [.text "      pages/".toList, .tag 12 "id".toList none,
        .text ".ts".toList], Part.Free p := by
      simp [Part.Free]
    have whole : plain (listed "pages/[id].ts").markup.toList = .ok "      pages/.ts".toList := by
      rw [plain, if_pos (by decide), read, remaining, forM_lookUp free, plainOf, front, plainOf, ok]
      · show (do let cs ← (plainOf [style] [.text ".ts".toList]).map _; _) = _
        rw [plainOf, back, plainOf]
        rfl
      · intro closing same
        cases same
    rw [text, printed, whole]
    cbv
  · have read : parts (listed "[/x].php").markup.toList =
        [.text "      ".toList, .tag 6 "/x".toList none, .text ".php".toList] := by cbv
    obtain ⟨style, ok, -⟩ := exists_nameOf (s := "x") (by decide)
    have none : plainOf [] [.tag 6 "/x".toList none, .text ".php".toList] =
        .error (.unmatched "[/x]" 6) := by
      have closing : String.ofList (trimBy isBlank ['x']) = "x" := by decide
      have name : "/x".toList = ['/', 'x'] := rfl
      rw [name, plainOf, if_neg (by decide), strip, String.toList_ofList, closing, ok]
      rfl
    rw [text, printed, plain, if_pos (by decide), read, remaining, plainOf, none]
    rfl
  · have read : parts (listed "[rgb(1,,3)].ts").markup.toList =
        [.text "      ".toList, .tag 6 "rgb(1,,3)".toList none, .text ".ts".toList] := by cbv
    have broken : nameOf (String.ofList "rgb(1,,3)".toList) = .error (.shade .empty) := by
      decide +kernel
    rw [text, printed, plain, if_pos (by decide), read, remaining, plainOf, plainOf, broken]
    · rfl
    · intro closing same
      cases same

end Status

end DomainAtlas.Console
