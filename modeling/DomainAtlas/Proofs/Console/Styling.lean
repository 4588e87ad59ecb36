import DomainAtlas.Console.Markup
import DomainAtlas.Proofs.Text.Parts
import Mathlib.Data.List.SplitBy

/-!
# Styles that can be read

A style is read twice, once for its name and once more as the styled passage is shown. Only a mixed
colour with a part that is no number keeps it from being read, and that needs a parenthesis: a text
without one has a style or none, and its name is without one too.

Results:
* `Style.exists_read`: a style is read from words without an opening parenthesis.
* `Markup.exists_nameOf`: so is the name of a style.
* `Markup.lookUp_of_free`: and the style is read again from that name.
-/
namespace DomainAtlas.Console

open Text

/-- There is no opening parenthesis in a text. -/
def Free (cs : List Char) : Prop := '(' ∉ cs

instance (cs : List Char) : Decidable (Free cs) := inferInstanceAs (Decidable ('(' ∉ cs))

theorem Free.mono {cs ds : List Char} (h : Free cs) (sub : ds ⊆ cs) : Free ds := fun mem => h (sub mem)

@[simp] theorem free_nil : Free [] := List.not_mem_nil

@[simp] theorem free_cons {c : Char} {cs : List Char} : Free (c :: cs) ↔ c ≠ '(' ∧ Free cs := by
  simp [Free, eq_comm]

@[simp] theorem free_append {cs ds : List Char} : Free (cs ++ ds) ↔ Free cs ∧ Free ds := by
  simp [Free]

theorem free_intercalate {sep : List Char} (free : Free sep) {parts : List (List Char)}
    (h : ∀ part ∈ parts, Free part) : Free (sep.intercalate parts) := by
  induction parts with
  | nil => simp
  | cons part parts ih =>
    rw [List.forall_mem_cons] at h
    cases parts with
    | nil => simpa using h.1
    | cons next parts =>
      rw [List.intercalate_cons_cons, free_append, free_append]
      exact ⟨⟨h.1, free⟩, ih h.2⟩

/-! ## Lower case -/

theorem eq_of_toLower {c : Char} (h : c.toLower = '(') : c = '(' := by
  unfold Char.toLower at h
  split at h
  next upper =>
    have code : c.val.toNat + 32 = 40 := by
      have same := congrArg (fun d : Char => d.val.toNat) h
      have low : 65 ≤ c.val.toNat ∧ c.val.toNat ≤ 90 := by simpa [UInt32.le_iff_toNat_le] using upper
      simp only [UInt32.toNat_add] at same
      have sum : (c.val.toNat + 32) % 2 ^ 32 = 40 := same
      omega
    have low : 65 ≤ c.val.toNat := by
      simpa [UInt32.le_iff_toNat_le] using upper.1
    omega
  next => exact h

theorem imageIn?_ne {runs : List FoldRun} {n : Nat} {d : Char} (h : imageIn? runs n = some d) : d ≠ '(' := by
  unfold imageIn? at h
  obtain ⟨r, -, found⟩ := Option.bind_eq_some_iff.1 h
  simp only [Option.ite_none_right_eq_some, Option.some.injEq] at found
  obtain ⟨high, rfl⟩ := found
  generalize ((n : Int) + r.distance).toNat = image at high
  intro same
  by_cases valid : image.isValidChar
  · have shown : Char.ofNat image = Char.ofNatAux image valid := dif_pos valid
    have code : image = 40 := congrArg Char.toNat (shown.symm.trans same)
    omega
  · have shown : Char.ofNat image = '\x00' := dif_neg valid
    cases shown.symm.trans same

theorem free_lowerChar {c : Char} (h : c ≠ '(') : Free (lowerChar c) := by
  unfold lowerChar
  dsimp only
  split
  · simpa using fun same => h (eq_of_toLower same)
  · split
    · simp
    · simp only [free_cons, free_nil, and_true]
      cases low : imageIn? lowerRuns c.toNat with
      | some d => exact imageIn?_ne low
      | none =>
        cases folded : imageIn? foldRuns c.toNat with
        | some d => exact imageIn?_ne folded
        | none => exact h

theorem free_lowerFrom (before : List Char) {cs : List Char} (h : Free cs) :
    Free (lowerFrom before cs) := by
  induction cs generalizing before with
  | nil => exact h
  | cons c cs ih =>
    rw [free_cons] at h
    rw [lowerFrom, free_append]
    refine ⟨?_, ih _ h.2⟩
    split
    · split <;> simp
    · exact free_lowerChar h.1

theorem free_lower {s : String} (h : Free s.toList) : Free (lower s).toList := by
  rw [lower, String.toList_ofList]
  exact free_lowerFrom [] h

/-! ## Words -/

theorem free_strip {s : String} (h : Free s.toList) : Free (strip s).toList := by
  rw [strip, String.toList_ofList]
  exact h.mono (trimBy_subset isBlank s.toList)

theorem free_of_mem_styleWords {s w : String} (h : Free s.toList) (mem : w ∈ styleWords s) :
    Free w.toList := by
  unfold styleWords at mem
  rw [List.mem_map] at mem
  obtain ⟨cs, kept, rfl⟩ := mem
  rw [String.toList_ofList]
  refine h.mono fun c inside => ?_
  have whole := List.flatten_splitBy (fun a b => isBlank a == isBlank b) s.toList
  rw [← whole]
  exact List.mem_flatten_of_mem (List.mem_of_mem_filter kept) inside

/-! ## Colours -/

theorem exists_isColour {word : String} (h : Free word.toList) : ∃ b, isColour word = .ok b := by
  have none : inParentheses? "rgb(" word = none := by
    unfold inParentheses?
    split
    next body found =>
      rw [dropStart?_eq_some_iff.1 found] at h
      exact absurd (free_append.1 h).1 (by decide)
    next => rfl
  rw [isColour, none]
  exact ⟨_, rfl⟩

/-! ## Styles -/

namespace Style

/-- What a style takes from a text has no parenthesis. -/
structure Tame (s : Style) : Prop where
  colour : ∀ w ∈ s.colour, Free w.toList
  ground : ∀ w ∈ s.ground, Free w.toList
  link : ∀ w ∈ s.link, Free w.toList

theorem tame_plain : plain.Tame := ⟨by simp [plain], by simp [plain], by simp [plain]⟩

/-- Words without parentheses are read. -/
theorem exists_ofWords {s : Style} (tame : s.Tame) {ws : List String} (h : ∀ w ∈ ws, Free w.toList) :
    ∃ r, ofWords s ws = .ok r ∧ ∀ t ∈ r, t.Tame := by
  have rest {w : String} {ws : List String} (h : ∀ v ∈ w :: ws, Free v.toList) :
      Free w.toList ∧ ∀ v ∈ ws, Free v.toList := List.forall_mem_cons.1 h
  fun_induction ofWords s ws with
  | case1 s => exact ⟨some s, rfl, by simpa using tame⟩
  | case2 s w word isOn g ws ih =>
    have ground := (rest (rest h).2).1
    obtain ⟨known, ok⟩ := exists_isColour (free_lower ground)
    cases known with
    | true =>
      rw [ok]
      exact ih ⟨tame.colour, by simpa using free_lower ground, tame.link⟩ (rest (rest h).2).2
    | false => exact ⟨none, by rw [ok]; rfl, by simp⟩
  | case4 s w word notOn isNot a ws name found ih =>
    exact ih ⟨tame.colour, tame.ground, tame.link⟩ (rest (rest h).2).2
  | case7 s w word notOn notNot isLink l ws ih =>
    exact ih ⟨tame.colour, tame.ground, by simpa using (rest (rest h).2).1⟩ (rest (rest h).2).2
  | case9 s w ws word notOn notNot notLink name found ih =>
    exact ih ⟨tame.colour, tame.ground, tame.link⟩ (rest h).2
  | case10 s w ws word notOn notNot notLink unknown ih =>
    have colour := free_lower (rest h).1
    obtain ⟨known, ok⟩ := exists_isColour colour
    cases known with
    | true =>
      rw [ok]
      exact ih ⟨by simpa using colour, tame.ground, tame.link⟩ (rest h).2
    | false => exact ⟨none, by rw [ok]; rfl, by simp⟩
  | case3 | case5 | case6 | case8 => exact ⟨none, rfl, by simp⟩

theorem exists_read {s : String} (h : Free s.toList) :
    ∃ r, Style.read s = .ok r ∧ ∀ t ∈ r, t.Tame := by
  unfold Style.read
  split
  · exact ⟨some plain, rfl, by simpa using tame_plain⟩
  · exact exists_ofWords tame_plain fun w mem => free_of_mem_styleWords h mem

theorem free_of_mem_attributeOrder : ∀ a ∈ attributeOrder, Free a.toList := by
  unfold Free
  decide

/-- Neither has the name of such a style. -/
theorem Tame.free_name {s : Style} (h : s.Tame) : Free s.name.toList := by
  unfold name
  dsimp only
  split
  · simp [Free]
  · rw [join, String.toList_intercalate]
    refine free_intercalate (by simp [Free]) ?_
    simp only [List.map_append, List.forall_mem_append, List.forall_mem_map, Option.mem_toList,
      Option.map_eq_some_iff, List.mem_filterMap]
    refine ⟨⟨⟨?_, h.colour⟩, ?_⟩, ?_⟩
    · rintro _ ⟨a, mem, on, -, rfl⟩
      have free := free_of_mem_attributeOrder a mem
      cases on <;> simp [free]
    · rintro _ ⟨g, mem, rfl⟩
      simpa using h.ground g mem
    · rintro _ ⟨l, mem, rfl⟩
      simpa using h.link l mem

end Style

theorem exists_styleName {s : String} (h : Free s.toList) :
    ∃ n, styleName s = .ok n ∧ Free n.toList := by
  obtain ⟨r, ok, tame⟩ := Style.exists_read h
  unfold styleName
  rw [ok]
  cases r with
  | none => exact ⟨_, rfl, free_lower (free_strip h)⟩
  | some style => exact ⟨_, rfl, (tame style rfl).free_name⟩

namespace Markup

theorem exists_nameOf {s : String} (h : Free s.toList) :
    ∃ n, nameOf s = .ok n ∧ Free n.toList := by
  obtain ⟨n, ok, free⟩ := exists_styleName h
  exact ⟨n, by rw [nameOf, ok]; rfl, free⟩

/-- No parenthesis stands in a tag. -/
def Part.Free : Part → Prop
  | .text _ => True
  | .tag _ name argument => Console.Free name ∧ ∀ a ∈ argument, Console.Free a

theorem lookUp_of_free {p : Part} (h : p.Free) : lookUp p = .ok () := by
  cases p with
  | text cs => rfl
  | tag position name argument =>
    rw [lookUp]
    split
    · rfl
    · obtain ⟨style, ok, free⟩ := exists_nameOf (s := String.ofList name) (by simpa using h.1)
      have whole : Console.Free (styleOf style argument).toList := by
        cases argument with
        | none => exact free
        | some a => simpa [styleOf] using ⟨free, h.2 a rfl⟩
      obtain ⟨again, read, -⟩ := exists_nameOf whole
      rw [ok]
      show discard (nameOf (styleOf style argument)) = .ok ()
      rw [read]
      rfl

end Markup

end DomainAtlas.Console
