import DomainAtlas.Json.Reader
import DomainAtlas.Json.Writer
import DomainAtlas.Proofs.Index.Store

/-!
# Reading JSON that was written

The reader gives back what the writer wrote, for every value without doubles whose objects have no
repeated names, whose integers are not too long to be converted and which is not too deep for the room
there is.
-/
namespace DomainAtlas

namespace Json

/-! ## Strings -/

theorem hexDigit?_digitChar : ∀ d, d < 16 → Text.hexDigit? d.digitChar = some d := by decide

/-- Four hexadecimal digits, written out. -/
theorem hexPadded_four {n : Nat} (h : n < 65536) :
    Text.hexPadded 4 n = [(n / 4096).digitChar, (n / 256 % 16).digitChar, (n / 16 % 16).digitChar,
      (n % 16).digitChar] := by
  have step : ∀ m, 16 ≤ m → Nat.toDigits 16 m = Nat.toDigits 16 (m / 16) ++ [(m % 16).digitChar] :=
    fun m hm => Nat.toDigits_of_base_le (by decide) hm
  have last : ∀ m, m < 16 → Nat.toDigits 16 m = [m.digitChar] :=
    fun m hm => Nat.toDigits_of_lt_base hm
  unfold Text.hexPadded
  by_cases h1 : n < 16
  · rw [last n h1, show n / 4096 = 0 by omega, show n / 256 % 16 = 0 by omega,
      show n / 16 % 16 = 0 by omega, show n % 16 = n by omega]
    rfl
  by_cases h2 : n < 256
  · rw [step n (by omega), last _ (show n / 16 < 16 by omega), show n / 4096 = 0 by omega,
      show n / 256 % 16 = 0 by omega, show n / 16 % 16 = n / 16 by omega]
    rfl
  by_cases h3 : n < 4096
  · rw [step n (by omega), step (n / 16) (by omega), last _ (show n / 16 / 16 < 16 by omega),
      show n / 4096 = 0 by omega, show n / 256 % 16 = n / 16 / 16 by omega]
    rfl
  · rw [step n (by omega), step (n / 16) (by omega), step (n / 16 / 16) (by omega),
      last _ (show n / 16 / 16 / 16 < 16 by omega), show n / 4096 = n / 16 / 16 / 16 by omega,
      show n / 256 % 16 = n / 16 / 16 % 16 by omega]
    rfl

theorem hex4?_hexPadded {n : Nat} (h : n < 65536) (rest : List Char) :
    hex4? (Text.hexPadded 4 n ++ rest) = some (n, rest) := by
  rw [hexPadded_four h]
  simp only [List.cons_append, List.nil_append, hex4?]
  rw [hexDigit?_digitChar _ (by omega), hexDigit?_digitChar _ (by omega),
    hexDigit?_digitChar _ (by omega), hexDigit?_digitChar _ (by omega)]
  simp only [Option.bind_eq_bind, Option.bind_some, Option.pure_def, Option.some.injEq,
    Prod.mk.injEq, and_true]
  omega

-- Units are kept folded below: on `0xDC00 + k` the digits would be unfolded that many times.
theorem escapeUnit_append (n : Nat) (cs : List Char) :
    escapeUnit n ++ cs = '\\' :: 'u' :: (Text.hexPadded 4 n ++ cs) := rfl

theorem unicodeEscape_unit {n : Nat} (h : n < 0xD800 ∨ 0xDFFF < n) (hn : n < 65536) (c : Char)
    (rest : List Char) :
    unicodeEscape (Text.hexPadded 4 n ++ c :: rest) = .ok (Char.ofNat n, c :: rest) := by
  unfold unicodeEscape
  rw [hex4?_hexPadded hn]
  simp only
  rw [if_neg (by omega), unitChar, if_neg (by omega)]

/-- Two units that make a pair are read as one character. -/
theorem unicodeEscape_units (hi lo : Nat) (h1 : 0xD800 ≤ hi) (h2 : hi ≤ 0xDBFF) (h3 : 0xDC00 ≤ lo)
    (h4 : lo ≤ 0xDFFF) (c : Char) (rest : List Char) :
    unicodeEscape (Text.hexPadded 4 hi ++ (escapeUnit lo ++ c :: rest)) =
      .ok (Char.ofNat (0x10000 + (hi - 0xD800) * 0x400 + (lo - 0xDC00)), c :: rest) := by
  have hl : ¬ (Text.hexPadded 4 lo ++ c :: rest).length ≤ 4 := by
    rw [hexPadded_four (by omega)]; simp
  unfold unicodeEscape
  rw [hex4?_hexPadded (by omega), escapeUnit_append]
  simp only
  rw [if_pos ⟨h1, h2⟩, hex4?_hexPadded (by omega), if_neg hl]
  simp only
  rw [if_pos ⟨h3, h4⟩]

/-- A character beyond the first plane is written as such a pair. -/
theorem unicodeEscape_pair {n : Nat} (h : 0x10000 ≤ n) (hn : n < 0x110000) (c : Char)
    (rest : List Char) :
    unicodeEscape (Text.hexPadded 4 (0xD800 + (n - 0x10000) / 0x400) ++
      (escapeUnit (0xDC00 + (n - 0x10000) % 0x400) ++ c :: rest)) = .ok (Char.ofNat n, c :: rest) := by
  have hc : 0x10000 + (0xD800 + (n - 0x10000) / 0x400 - 0xD800) * 0x400 +
      (0xDC00 + (n - 0x10000) % 0x400 - 0xDC00) = n := by omega
  have := unicodeEscape_units (0xD800 + (n - 0x10000) / 0x400) (0xDC00 + (n - 0x10000) % 0x400)
    (by omega) (by omega) (by omega) (by omega) c rest
  rwa [hc] at this

theorem toNat_not_surrogate (c : Char) : c.toNat < 0xD800 ∨ 0xDFFF < c.toNat ∧ c.toNat < 0x110000 :=
  c.valid

theorem stringBody_plain (opening fuel : Nat) (acc : List Char) {c : Char} (hq : c ≠ '"')
    (hb : c ≠ '\\') (h : 32 ≤ c.toNat) (rest : List Char) :
    stringBody opening (fuel + 1) acc (c :: rest) = stringBody opening fuel (c :: acc) rest := by
  rw [stringBody.eq_def]
  simp only [hq, hb, if_false]
  rw [if_neg (by omega)]

theorem stringBody_simple (opening fuel : Nat) (acc : List Char) {e c : Char} (hu : e ≠ 'u')
    (h : simpleEscape? e = some c) (rest : List Char) :
    stringBody opening (fuel + 1) acc ('\\' :: e :: rest) =
      stringBody opening fuel (c :: acc) rest := by
  rw [stringBody.eq_def]
  simp [h]

theorem stringBody_unicode (opening fuel : Nat) (acc : List Char) {cs rest : List Char} {c : Char}
    (h : unicodeEscape cs = .ok (c, rest)) :
    stringBody opening (fuel + 1) acc ('\\' :: 'u' :: cs) =
      stringBody opening fuel (c :: acc) rest := by
  rw [stringBody.eq_def]
  simp only [h]
  rfl

/-- The ways to write a character: after a backslash, as it is, or as one or two units. -/
inductive Escaped (c : Char) : List Char → Prop
  | simple {e : Char} (ne : e ≠ 'u') (visible : 32 ≤ e.toNat) (h : simpleEscape? e = some c) :
    Escaped c ['\\', e]
  | plain (quote : c ≠ '"') (backslash : c ≠ '\\') (visible : 32 ≤ c.toNat) : Escaped c [c]
  | unit (h : c.toNat < 0x10000) : Escaped c (escapeUnit c.toNat)
  | pair (h : 0x10000 ≤ c.toNat) : Escaped c (escapeUnit (0xD800 + (c.toNat - 0x10000) / 0x400) ++
      escapeUnit (0xDC00 + (c.toNat - 0x10000) % 0x400))

theorem escaped_escapeChar (c : Char) : Escaped c (escapeChar c) := by
  have ofToNat {n : Nat} (h : c.toNat = n) : Char.ofNat n = c := by rw [← h, Char.ofNat_toNat]
  unfold escapeChar
  simp only
  by_cases quote : c = '"'
  · rw [if_pos quote]
    exact .simple (by decide) (by decide) (by rw [quote]; rfl)
  rw [if_neg quote]
  by_cases backslash : c = '\\'
  · rw [if_pos backslash]
    exact .simple (by decide) (by decide) (by rw [backslash]; rfl)
  rw [if_neg backslash]
  by_cases newline : c = '\n'
  · rw [if_pos newline]
    exact .simple (by decide) (by decide) (by rw [newline]; rfl)
  rw [if_neg newline]
  by_cases return' : c = '\r'
  · rw [if_pos return']
    exact .simple (by decide) (by decide) (by rw [return']; rfl)
  rw [if_neg return']
  by_cases tab : c = '\t'
  · rw [if_pos tab]
    exact .simple (by decide) (by decide) (by rw [tab]; rfl)
  rw [if_neg tab]
  by_cases back : c.toNat = 8
  · rw [if_pos back]
    exact .simple (by decide) (by decide) (by rw [← ofToNat back]; rfl)
  rw [if_neg back]
  by_cases feed : c.toNat = 12
  · rw [if_pos feed]
    exact .simple (by decide) (by decide) (by rw [← ofToNat feed]; rfl)
  rw [if_neg feed]
  by_cases visible : 32 ≤ c.toNat ∧ c.toNat ≤ 126
  · rw [if_pos visible]
    exact .plain quote backslash visible.1
  rw [if_neg visible]
  by_cases small : c.toNat ≤ 0xFFFF
  · rw [if_pos small]
    exact .unit (by omega)
  · rw [if_neg small]
    exact .pair (by omega)

/-- What is written for a character is read as that character. Something has to follow: a string
always ends with a quote. -/
theorem stringBody_escaped (opening fuel : Nat) (acc : List Char) {c : Char} {cs : List Char}
    (h : Escaped c cs) (d : Char) (rest : List Char) :
    stringBody opening (fuel + 1) acc (cs ++ d :: rest) =
      stringBody opening fuel (c :: acc) (d :: rest) := by
  have hs := toNat_not_surrogate c
  cases h with
  | simple ne visible h => exact stringBody_simple opening fuel acc ne h (d :: rest)
  | plain quote backslash visible =>
    exact stringBody_plain opening fuel acc quote backslash visible (d :: rest)
  | unit h =>
    have hu := unicodeEscape_unit (n := c.toNat) (by omega) h d rest
    rw [Char.ofNat_toNat] at hu
    rw [escapeUnit_append]
    exact stringBody_unicode opening fuel acc hu
  | pair h =>
    have hu := unicodeEscape_pair (n := c.toNat) h (by omega) d rest
    rw [Char.ofNat_toNat] at hu
    rw [List.append_assoc, escapeUnit_append]
    exact stringBody_unicode opening fuel acc hu

theorem Escaped.length_pos {c : Char} {cs : List Char} (h : Escaped c cs) : 0 < cs.length := by
  cases h <;> exact Nat.succ_pos _

theorem length_le_flatMap_escapeChar (cs : List Char) :
    cs.length ≤ (cs.flatMap escapeChar).length := by
  induction cs with
  | nil => simp
  | cons c cs ih =>
    have := (escaped_escapeChar c).length_pos
    simp only [List.flatMap_cons, List.length_cons, List.length_append]
    omega

theorem stringBody_flatMap_escapeChar (opening : Nat) (cs acc rest : List Char) (fuel : Nat)
    (h : cs.length < fuel) :
    stringBody opening fuel acc (cs.flatMap escapeChar ++ '"' :: rest) =
      .ok (String.ofList (acc.reverse ++ cs), rest) := by
  induction cs generalizing acc fuel with
  | nil =>
    obtain ⟨fuel, rfl⟩ : ∃ k, fuel = k + 1 := ⟨fuel - 1, by simp at h; omega⟩
    simp [stringBody]
  | cons c cs ih =>
    obtain ⟨fuel, rfl⟩ : ∃ k, fuel = k + 1 := ⟨fuel - 1, by simp at h; omega⟩
    simp only [List.length_cons, Nat.add_lt_add_iff_right] at h
    obtain ⟨d, tail, ht⟩ : ∃ d tail, cs.flatMap escapeChar ++ '"' :: rest = d :: tail := by
      cases hf : cs.flatMap escapeChar with
      | nil => exact ⟨_, _, rfl⟩
      | cons d ds => exact ⟨_, _, rfl⟩
    rw [List.flatMap_cons, List.append_assoc, ht,
      stringBody_escaped _ _ _ (escaped_escapeChar c), ← ht, ih _ _ h]
    simp

/-- A string that was written is read back, whatever follows it. -/
theorem string_quoted (s : String) (rest : List Char) :
    string (s.toList.flatMap escapeChar ++ '"' :: rest) = .ok (s, rest) := by
  have hl := length_le_flatMap_escapeChar s.toList
  rw [string, stringBody_flatMap_escapeChar _ _ _ _ _ (by simp only [List.length_append]; omega)]
  simp

/-! ## Words and numbers -/

/-- What may stand after a value: nothing, or what ends or goes on with the value around it. -/
def Ends : List Char → Prop
  | [] => True
  | c :: _ => c = ',' ∨ c = ']' ∨ c = '\x7d'

theorem ends_comma (cs : List Char) : Ends (',' :: cs) := Or.inl rfl

theorem ends_bracket (cs : List Char) : Ends (']' :: cs) := Or.inr (Or.inl rfl)

theorem ends_brace (cs : List Char) : Ends ('\x7d' :: cs) := Or.inr (Or.inr rfl)

theorem takeWhile_digits {ds rest : List Char} (hd : ∀ c ∈ ds, c.isDigit) (hr : Ends rest) :
    (ds ++ rest).takeWhile Char.isDigit = ds ∧ (ds ++ rest).dropWhile Char.isDigit = rest := by
  rw [List.takeWhile_append_of_pos hd, List.dropWhile_append_of_pos hd]
  cases rest with
  | nil => simp
  | cons c cs =>
    have : c.isDigit = false := by rcases hr with rfl | rfl | rfl <;> rfl
    simp [this]

theorem fraction_ends {rest : List Char} (h : Ends rest) : fraction rest = ([], rest) := by
  cases rest with
  | nil => rfl
  | cons c cs => rcases h with rfl | rfl | rfl <;> rfl

theorem exponent_ends {rest : List Char} (h : Ends rest) : exponent rest = (none, rest) := by
  cases rest with
  | nil => rfl
  | cons c cs => rcases h with rfl | rfl | rfl <;> rfl

theorem digitsValue_toDigits (n : Nat) : digitsValue (Nat.toDigits 10 n) = n := by
  have h := Nat.ofDigitChars_ten_toDigits (n := n)
  rw [Nat.ofDigitChars_eq_foldl] at h
  simpa only [digitsValue, Nat.mul_comm, show '0'.toNat = 48 from rfl] using h

/-- Digits of a number start with a zero only when it is zero. -/
theorem toDigits_head_zero {n : Nat} {cs : List Char} (h : Nat.toDigits 10 n = '0' :: cs) :
    cs = [] := by
  induction n using Nat.strongRecOn generalizing cs with
  | _ n ih =>
    by_cases hn : n < 10
    · rw [Nat.toDigits_of_lt_base hn] at h
      exact (List.cons.inj h).2.symm
    · rw [Nat.toDigits_of_base_le (by decide) (by omega)] at h
      obtain ⟨c, ds, hd⟩ := List.exists_cons_of_ne_nil (Nat.toDigits_ne_nil (b := 10) (n := n / 10))
      rw [hd, List.cons_append] at h
      obtain ⟨rfl, rfl⟩ := List.cons.inj h
      obtain rfl := ih (n / 10) (by omega) hd
      have h0 : n / 10 = 0 := by
        have := digitsValue_toDigits (n / 10)
        rw [hd] at this
        exact this.symm
      omega

theorem wholePart?_toDigits (n : Nat) {rest : List Char} (hr : Ends rest) :
    wholePart? (Nat.toDigits 10 n ++ rest) = some (Nat.toDigits 10 n, rest) := by
  obtain ⟨c, cs, hd⟩ := List.exists_cons_of_ne_nil (Nat.toDigits_ne_nil (b := 10) (n := n))
  have digits : ∀ x ∈ c :: cs, x.isDigit :=
    fun x hx => Nat.isDigit_of_mem_toDigits (by decide) (by decide) (hd ▸ hx)
  rw [hd, List.cons_append, wholePart?]
  split
  · next h =>
    subst h
    rw [toDigits_head_zero hd, List.nil_append]
  · have tail := takeWhile_digits (fun x hx => digits x (List.mem_cons_of_mem _ hx)) hr
    rw [if_pos (digits c List.mem_cons_self), tail.1, tail.2]

theorem number_toDigits (neg : Bool) (left n : Nat) {rest : List Char} (hr : Ends rest)
    (hn : (Nat.toDigits 10 n).length ≤ Text.maxDigits) :
    number neg left (Nat.toDigits 10 n ++ rest) =
      .ok (.int (if neg then -(n : Int) else n), rest) := by
  rw [number, wholePart?_toDigits n hr]
  simp only [fraction_ends hr, exponent_ends hr]
  rw [if_pos ⟨rfl, rfl⟩, if_neg (by omega), digitsValue_toDigits]

theorem word?_of_head_ne {w : String} {a c : Char} {ws : List Char} (cs : List Char)
    (hw : w.toList = a :: ws) (h : a ≠ c) : word? w (c :: cs) = none := by
  rw [word?, hw]
  simp [h]

/-- What starts with none of the words is a number. -/
theorem scalar_of_no_word {cs : List Char} (h : ∀ e ∈ words, word? e.1 cs = none) :
    scalar cs = if cs.head? = some '-' then number true cs.length cs.tail
      else number false cs.length cs := by
  unfold scalar
  rw [List.findSome?_eq_none_iff.mpr]
  · split
    · next h => cases h
    · split
      · rfl
      · next h =>
        rw [if_neg]
        rintro minus
        exact h _ (List.head?_eq_some_iff.mp minus).choose_spec
  · rintro ⟨w, v⟩ he
    simp only [h _ he, Option.map_none]

/-- Digits start none of the words. -/
theorem scalar_digits {c : Char} (hc : c.isDigit) (cs : List Char) :
    scalar (c :: cs) = number false (c :: cs).length (c :: cs) := by
  have ne : ∀ a : Char, a.isDigit = false → a ≠ c := by
    rintro a ha rfl
    rw [hc] at ha
    cases ha
  have none_of : ∀ e ∈ words, word? e.1 (c :: cs) = none := by
    simp only [words, List.forall_mem_cons]
    exact ⟨word?_of_head_ne cs rfl (ne 'n' rfl), word?_of_head_ne cs rfl (ne 't' rfl),
      word?_of_head_ne cs rfl (ne 'f' rfl), word?_of_head_ne cs rfl (ne 'N' rfl),
      word?_of_head_ne cs rfl (ne 'I' rfl), word?_of_head_ne cs rfl (ne '-' rfl),
      List.forall_mem_nil _⟩
  rw [scalar_of_no_word none_of, if_neg]
  exact fun h => ne '-' rfl (Option.some.inj h).symm

theorem scalar_minus {c : Char} (hc : c.isDigit) (cs : List Char) :
    scalar ('-' :: c :: cs) = number true ('-' :: c :: cs).length (c :: cs) := by
  have ne : 'I' ≠ c := by
    rintro rfl
    cases hc
  have infinity : word? "-Infinity" ('-' :: c :: cs) = none := by
    rw [word?, show "-Infinity".toList = '-' :: 'I' :: "nfinity".toList from rfl]
    simp [ne]
  have none_of : ∀ e ∈ words, word? e.1 ('-' :: c :: cs) = none := by
    simp only [words, List.forall_mem_cons]
    exact ⟨word?_of_head_ne _ rfl (show 'n' ≠ '-' by decide),
      word?_of_head_ne _ rfl (show 't' ≠ '-' by decide),
      word?_of_head_ne _ rfl (show 'f' ≠ '-' by decide),
      word?_of_head_ne _ rfl (show 'N' ≠ '-' by decide),
      word?_of_head_ne _ rfl (show 'I' ≠ '-' by decide), infinity, List.forall_mem_nil _⟩
  exact (scalar_of_no_word none_of).trans (if_pos rfl)

theorem scalar_intChars (n : Int) {rest : List Char} (hr : Ends rest)
    (hn : (Nat.toDigits 10 n.natAbs).length ≤ Text.maxDigits) :
    scalar (intChars n ++ rest) = .ok (.int n, rest) := by
  obtain ⟨c, cs, hd⟩ := List.exists_cons_of_ne_nil
    (Nat.toDigits_ne_nil (b := 10) (n := n.natAbs))
  have hc : c.isDigit :=
    Nat.isDigit_of_mem_toDigits (by decide) (by decide) (hd ▸ List.mem_cons_self)
  unfold intChars
  split
  · next h =>
    rw [hd, List.cons_append, List.cons_append, scalar_minus hc, ← List.cons_append, ← hd,
      number_toDigits true _ _ hr hn]
    simp only [↓reduceIte, Except.ok.injEq, Prod.mk.injEq, Json.int.injEq, and_true]
    omega
  · next h =>
    rw [hd, List.cons_append, scalar_digits hc, ← List.cons_append, ← hd,
      number_toDigits false _ _ hr hn]
    simp only [Bool.false_eq_true, ↓reduceIte, Except.ok.injEq, Prod.mk.injEq, Json.int.injEq,
      and_true]
    omega

/-! ## Values -/

/-- The values that are read back as they were written where there is some room: without doubles,
without repeated names, with no integer too long to be converted, and no deeper than that. -/
inductive Exact : Json → Nat → Prop
  | null {room : Nat} : Exact .null room
  | bool {room : Nat} (b : Bool) : Exact (.bool b) room
  | int {room : Nat} {n : Int} (h : (Nat.toDigits 10 n.natAbs).length ≤ Text.maxDigits) :
    Exact (.int n) room
  | str {room : Nat} (s : String) : Exact (.str s) room
  | arr {room : Nat} {vs : List Json} (h : ∀ v ∈ vs, Exact v room) : Exact (.arr vs) (room + 1)
  | obj {room : Nat} {ms : List (String × Json)} (names : (ms.map Prod.fst).Nodup)
    (h : ∀ m ∈ ms, Exact m.2 room) : Exact (.obj ms) (room + 1)

theorem Exact.mono {room room' : Nat} {v : Json} (h : Exact v room) (le : room ≤ room') :
    Exact v room' := by
  induction h generalizing room' with
  | null => exact .null
  | bool b => exact .bool b
  | int h => exact .int h
  | str s => exact .str s
  | arr h ih =>
    obtain ⟨more, rfl⟩ : ∃ k, room' = k + 1 := ⟨room' - 1, by omega⟩
    exact .arr fun v hv => ih v hv (by omega)
  | obj names h ih =>
    obtain ⟨more, rfl⟩ : ∃ k, room' = k + 1 := ⟨room' - 1, by omega⟩
    exact .obj names fun m hm => ih m hm (by omega)

theorem skipSpace_cons {c : Char} (h : isSpace c = false) (cs : List Char) :
    skipSpace (c :: cs) = c :: cs := by
  simp [skipSpace, h]

theorem intChars_head (n : Int) :
    ∃ c cs, intChars n = c :: cs ∧ (c = '-' ∨ c.isDigit) := by
  obtain ⟨c, cs, hd⟩ := List.exists_cons_of_ne_nil
    (Nat.toDigits_ne_nil (b := 10) (n := n.natAbs))
  unfold intChars
  split
  · exact ⟨'-', _, rfl, .inl rfl⟩
  · refine ⟨c, cs, hd, .inr ?_⟩
    exact Nat.isDigit_of_mem_toDigits (by decide) (by decide) (hd ▸ List.mem_cons_self)

/-- What a value starts with: no white space, no closing bracket and no byte order mark. -/
theorem chars_head {room : Nat} {v : Json} (h : Exact v room) :
    ∃ c cs, chars v = c :: cs ∧ isSpace c = false ∧ c ≠ ']' ∧ c ≠ '\ufeff' := by
  have plain : ∀ {c : Char} {cs : List Char}, chars v = c :: cs → isSpace c = false → c ≠ ']' →
      c ≠ '\ufeff' → ∃ c cs, chars v = c :: cs ∧ isSpace c = false ∧ c ≠ ']' ∧ c ≠ '\ufeff' :=
    fun h1 h2 h3 h4 => ⟨_, _, h1, h2, h3, h4⟩
  cases h with
  | null => exact plain rfl rfl (by decide) (by decide)
  | bool b => cases b <;> exact plain rfl rfl (by decide) (by decide)
  | str s => exact plain rfl rfl (by decide) (by decide)
  | @int _ n h =>
    obtain ⟨c, cs, hc, rfl | hd⟩ := intChars_head n
    · exact plain hc rfl (by decide) (by decide)
    · have ne : ∀ a : Char, a.isDigit = false → c ≠ a := by
        rintro a ha rfl
        rw [hd] at ha
        cases ha
      refine plain hc ?_ (ne ']' rfl) (ne '\ufeff' rfl)
      simp [isSpace, ne ' ' rfl, ne '\t' rfl, ne '\n' rfl, ne '\r' rfl]
  | @arr _ vs h => cases vs <;> exact plain rfl rfl (by decide) (by decide)
  | @obj _ ms names h => cases ms <;> exact plain rfl rfl (by decide) (by decide)

theorem value_scalar (room fuel : Nat) {c : Char} (hq : c ≠ '"') (hb : c ≠ '[') (ho : c ≠ '\x7b')
    (cs : List Char) : value room (fuel + 1) (c :: cs) = scalar (c :: cs) := by
  rw [value]
  · exact fun rest h => hq (List.cons.inj h).1
  · exact fun rest h => (hb (List.cons.inj h).1).elim
  · exact fun rest more h => (hb (List.cons.inj h).1).elim
  · exact fun rest h => (ho (List.cons.inj h).1).elim
  · exact fun rest more h => (ho (List.cons.inj h).1).elim

/-- In some room the value is read back, with any fuel that covers its text. -/
def ReadBack (room : Nat) (v : Json) : Prop :=
  ∀ fuel rest, (chars v).length ≤ fuel → Ends rest →
    value room fuel (chars v ++ rest) = .ok (v, rest)

section Room

variable {room : Nat}

theorem readBack_int {n : Int} (h : (Nat.toDigits 10 n.natAbs).length ≤ Text.maxDigits) :
    ReadBack room (.int n) := by
  intro fuel rest hf hr
  obtain ⟨c, cs, hc, hd⟩ := intChars_head n
  have ne : ∀ a : Char, a ≠ '-' → a.isDigit = false → c ≠ a := by
    rintro a h1 h2 rfl
    rcases hd with hd | hd
    · exact h1 hd
    · rw [hd] at h2
      cases h2
  rw [chars] at hf ⊢
  obtain ⟨fuel, rfl⟩ : ∃ k, fuel = k + 1 := ⟨fuel - 1, by rw [hc] at hf; simp at hf; omega⟩
  rw [hc, List.cons_append, value_scalar room fuel (ne '"' (by decide) rfl) (ne '[' (by decide) rfl)
    (ne '\x7b' (by decide) rfl), ← List.cons_append, ← hc]
  exact scalar_intChars n hr h

theorem items_chars {v : Json} {vs : List Json} (exact : ∀ w ∈ v :: vs, Exact w room)
    (h : ∀ w ∈ v :: vs, ReadBack room w) (fuel : Nat) (rest : List Char)
    (hf : (chars v).length + (itemChars vs).length ≤ fuel) :
    items room fuel (chars v ++ (itemChars vs ++ rest)) = .ok (v :: vs, rest) := by
  have hv := h v List.mem_cons_self
  induction vs generalizing v fuel with
  | nil =>
    simp only [itemChars, List.length_cons, List.length_nil] at hf
    obtain ⟨fuel, rfl⟩ : ∃ k, fuel = k + 1 := ⟨fuel - 1, by omega⟩
    rw [items, itemChars, List.cons_append, List.nil_append,
      hv fuel _ (by omega) (ends_bracket rest)]
    rfl
  | cons w ws ih =>
    simp only [itemChars, List.length_cons, List.length_append] at hf
    obtain ⟨fuel, rfl⟩ : ∃ k, fuel = k + 1 := ⟨fuel - 1, by omega⟩
    have tail := ih (fun x hx => exact x (List.mem_cons_of_mem _ hx))
      (fun x hx => h x (List.mem_cons_of_mem _ hx)) fuel (by omega)
      (h w (List.mem_cons_of_mem _ List.mem_cons_self))
    obtain ⟨c, cs, hc, hs, -, -⟩ := chars_head (exact w (by simp))
    rw [items, itemChars, List.cons_append, List.cons_append, hv fuel _ (by omega) (ends_comma _)]
    have skip : skipSpace (' ' :: (chars w ++ itemChars ws ++ rest)) =
        chars w ++ (itemChars ws ++ rest) := by
      rw [List.append_assoc, hc]
      exact skipSpace_cons hs _
    show (items room fuel (skipSpace (' ' :: (chars w ++ itemChars ws ++ rest)))).map _ = _
    rw [skip, tail]
    rfl

theorem readBack_arr {vs : List Json} (exact : ∀ v ∈ vs, Exact v room)
    (h : ∀ v ∈ vs, ReadBack room v) : ReadBack (room + 1) (.arr vs) := by
  intro fuel rest hf _
  cases vs with
  | nil =>
    obtain ⟨fuel, rfl⟩ : ∃ k, fuel = k + 1 := ⟨fuel - 1, by simp [chars] at hf; omega⟩
    rw [chars, value.eq_def]
    rfl
  | cons v vs =>
    simp only [chars, List.length_cons, List.length_append] at hf
    obtain ⟨fuel, rfl⟩ : ∃ k, fuel = k + 1 := ⟨fuel - 1, by omega⟩
    obtain ⟨c, cs, hc, hs, hb, -⟩ := chars_head (exact v List.mem_cons_self)
    have body := items_chars exact h fuel rest (by omega)
    rw [hc, List.cons_append] at body
    rw [chars, List.cons_append, List.append_assoc, value, hc, List.cons_append, skipSpace_cons hs]
    split
    · next e => exact absurd (List.cons.inj e).1 hb
    · rw [body]
      rfl

/-- A written name and what follows it. -/
theorem quoteChars_append (n : String) (cs : List Char) :
    quoteChars n.toList ++ cs = '"' :: (n.toList.flatMap escapeChar ++ '"' :: cs) := by
  simp [quoteChars]

theorem members_chars {n : String} {v : Json} {ms : List (String × Json)}
    (exact : ∀ m ∈ (n, v) :: ms, Exact m.2 room) (h : ∀ m ∈ (n, v) :: ms, ReadBack room m.2)
    (fuel : Nat) (rest : List Char) (hf : (chars v).length + (memberChars ms).length ≤ fuel) :
    members room fuel (quoteChars n.toList ++ ':' :: ' ' :: (chars v ++ (memberChars ms ++ rest))) =
      .ok ((n, v) :: ms, rest) := by
  have hv : ReadBack room v := h _ List.mem_cons_self
  have skip : ∀ {w : Json} (cs : List Char), Exact w room →
      skipSpace (' ' :: (chars w ++ cs)) = chars w ++ cs := by
    intro w cs hw
    obtain ⟨c, tail, hc, hs, -, -⟩ := chars_head hw
    rw [hc]
    exact skipSpace_cons hs _
  have colon : ∀ cs, skipSpace (':' :: cs) = ':' :: cs := fun cs => skipSpace_cons rfl cs
  induction ms generalizing n v fuel with
  | nil =>
    simp only [memberChars, List.length_cons, List.length_nil] at hf
    obtain ⟨fuel, rfl⟩ : ∃ k, fuel = k + 1 := ⟨fuel - 1, by omega⟩
    rw [quoteChars_append, members, string_quoted]
    simp only [colon]
    rw [skip _ (exact _ List.mem_cons_self), memberChars, List.cons_append, List.nil_append,
      hv fuel _ (by omega) (ends_brace rest)]
    rfl
  | cons m ms ih =>
    obtain ⟨n', w⟩ := m
    simp only [memberChars, List.length_cons, List.length_append] at hf
    obtain ⟨fuel, rfl⟩ : ∃ k, fuel = k + 1 := ⟨fuel - 1, by omega⟩
    have tail := ih (fun x hx => exact x (List.mem_cons_of_mem _ hx))
      (fun x hx => h x (List.mem_cons_of_mem _ hx)) fuel (by omega)
      (h _ (List.mem_cons_of_mem _ List.mem_cons_self))
    rw [quoteChars_append, members, string_quoted]
    simp only [colon]
    rw [skip _ (exact _ List.mem_cons_self), memberChars, List.cons_append, List.cons_append,
      hv fuel _ (by omega) (ends_comma _)]
    show (members room fuel (skipSpace (' ' :: (quoteChars n'.toList ++ ':' :: ' ' ::
      (chars w ++ memberChars ms) ++ rest)))).map _ = _
    have name : skipSpace (' ' :: (quoteChars n'.toList ++ ':' :: ' ' ::
        (chars w ++ memberChars ms) ++ rest)) =
          quoteChars n'.toList ++ ':' :: ' ' :: (chars w ++ (memberChars ms ++ rest)) := by
      simp only [List.append_assoc, List.cons_append]
      exact skipSpace_cons (c := '"') rfl _
    rw [name, tail]
    rfl

theorem setMember_eq_putEntry (n : String) (v : Json) (ms : List (String × Json)) :
    setMember n v ms = putEntry n v ms := by
  induction ms with
  | nil => rfl
  | cons m ms ih =>
    obtain ⟨n', w⟩ := m
    rw [setMember, putEntry, ih]

theorem ofPairs_of_nodup {ms : List (String × Json)} (h : (ms.map Prod.fst).Nodup) :
    ofPairs ms = ms := by
  simp only [ofPairs, setMember_eq_putEntry]
  exact foldl_putEntry [] ms (by simpa using h)

theorem readBack_obj {ms : List (String × Json)} (names : (ms.map Prod.fst).Nodup)
    (exact : ∀ m ∈ ms, Exact m.2 room) (h : ∀ m ∈ ms, ReadBack room m.2) :
    ReadBack (room + 1) (.obj ms) := by
  intro fuel rest hf _
  cases ms with
  | nil =>
    obtain ⟨fuel, rfl⟩ : ∃ k, fuel = k + 1 := ⟨fuel - 1, by simp [chars] at hf; omega⟩
    rw [chars, value.eq_def]
    rfl
  | cons m ms =>
    obtain ⟨n, v⟩ := m
    simp only [chars, List.length_cons, List.length_append] at hf
    obtain ⟨fuel, rfl⟩ : ∃ k, fuel = k + 1 := ⟨fuel - 1, by omega⟩
    have body := members_chars exact h fuel rest (by omega)
    rw [quoteChars_append] at body
    have shape : chars (.obj ((n, v) :: ms)) ++ rest = '\x7b' :: '"' ::
        (n.toList.flatMap escapeChar ++ '"' :: ':' :: ' ' :: (chars v ++ (memberChars ms ++ rest))) := by
      simp [chars, quoteChars]
    rw [shape, value, skipSpace_cons rfl]
    show (members room fuel _).map _ = _
    rw [body]
    show Except.ok (Json.obj (ofPairs ((n, v) :: ms)), rest) = _
    rw [ofPairs_of_nodup names]

theorem readBack_of_exact {v : Json} (h : Exact v room) : ReadBack room v := by
  induction h with
  | null =>
    intro fuel rest hf _
    obtain ⟨fuel, rfl⟩ : ∃ k, fuel = k + 1 := ⟨fuel - 1, by simp [chars] at hf; omega⟩
    exact value_scalar _ fuel (by decide) (by decide) (by decide) _
  | bool b =>
    intro fuel rest hf _
    obtain ⟨fuel, rfl⟩ : ∃ k, fuel = k + 1 :=
      ⟨fuel - 1, by cases b <;> simp [chars] at hf <;> omega⟩
    cases b <;> exact value_scalar _ fuel (by decide) (by decide) (by decide) _
  | int h => exact readBack_int h
  | str s =>
    intro fuel rest hf _
    obtain ⟨fuel, rfl⟩ : ∃ k, fuel = k + 1 := ⟨fuel - 1, by simp [chars, quoteChars] at hf; omega⟩
    rw [chars, quoteChars_append, value, string_quoted]
    rfl
  | arr h ih => exact readBack_arr h ih
  | obj names h ih => exact readBack_obj names h ih

/-- **Reading what was written.** -/
theorem parse_render {v : Json} (h : Exact v room) : parse room (render v) = .ok v := by
  obtain ⟨c, cs, hc, hs, -, hm⟩ := chars_head h
  have hv := readBack_of_exact h (2 * (chars v).length + 1) [] (by omega) trivial
  rw [List.append_nil] at hv
  have hp : parseChars room (chars v) = .ok v := by
    unfold parseChars
    split
    · next e => exact absurd (List.cons.inj (hc.symm.trans e)).1 hm
    · rw [show skipSpace (chars v) = chars v by rw [hc]; exact skipSpace_cons hs cs, hv]
      rfl
  rw [parse, render, String.toList_ofList, hp]

end Room

/-! ## What a written text consists of -/

theorem toNat_digitChar_le : ∀ d, d < 16 → 32 ≤ d.digitChar.toNat := by decide

theorem printable_escapeUnit {n : Nat} (h : n < 65536) : ∀ c ∈ escapeUnit n, 32 ≤ c.toNat := by
  have digit := toNat_digitChar_le
  rw [escapeUnit, hexPadded_four h]
  simp only [List.forall_mem_cons]
  exact ⟨by decide, by decide, digit _ (by omega), digit _ (by omega), digit _ (by omega),
    digit _ (by omega), by simp⟩

theorem Escaped.printable {c : Char} {cs : List Char} (h : Escaped c cs) :
    ∀ d ∈ cs, 32 ≤ d.toNat := by
  have hs := toNat_not_surrogate c
  cases h with
  | simple ne visible h =>
    simp only [List.forall_mem_cons]
    exact ⟨by decide, visible, by simp⟩
  | plain quote backslash visible => simpa using visible
  | unit h => exact printable_escapeUnit h
  | pair h =>
    intro d hd
    rcases List.mem_append.1 hd with hd | hd
    · exact printable_escapeUnit (by omega) d hd
    · exact printable_escapeUnit (by omega) d hd

theorem printable_quoteChars (cs : List Char) : ∀ d ∈ quoteChars cs, 32 ≤ d.toNat := by
  intro d hd
  simp only [quoteChars, List.mem_cons, List.mem_append, List.mem_flatMap, List.not_mem_nil,
    or_false] at hd
  rcases hd with rfl | ⟨c, -, hd⟩ | rfl
  · decide
  · exact (escaped_escapeChar c).printable d hd
  · decide

theorem printable_intChars (n : Int) : ∀ d ∈ intChars n, 32 ≤ d.toNat := by
  have digits : ∀ d ∈ Nat.toDigits 10 n.natAbs, 32 ≤ d.toNat := by
    intro d hd
    have := Nat.isDigit_of_mem_toDigits (by decide) (by decide) hd
    simp only [Char.isDigit, Bool.and_eq_true, decide_eq_true_eq] at this
    exact Nat.le_trans (by decide) (UInt32.le_iff_toNat_le.1 this.1)
  unfold intChars
  split
  · exact List.forall_mem_cons.2 ⟨by decide, digits⟩
  · exact digits

theorem printable_itemChars {vs : List Json} (h : ∀ v ∈ vs, ∀ d ∈ chars v, 32 ≤ d.toNat) :
    ∀ d ∈ itemChars vs, 32 ≤ d.toNat := by
  induction vs with
  | nil => simp [itemChars]
  | cons v vs ih =>
    intro d hd
    simp only [itemChars, List.mem_cons, List.mem_append] at hd
    rcases hd with rfl | rfl | hd | hd
    · decide
    · decide
    · exact h v List.mem_cons_self d hd
    · exact ih (fun w hw => h w (List.mem_cons_of_mem _ hw)) d hd

theorem printable_memberChars {ms : List (String × Json)}
    (h : ∀ m ∈ ms, ∀ d ∈ chars m.2, 32 ≤ d.toNat) : ∀ d ∈ memberChars ms, 32 ≤ d.toNat := by
  induction ms with
  | nil => simp [memberChars]
  | cons m ms ih =>
    intro d hd
    simp only [memberChars, List.mem_cons, List.mem_append] at hd
    rcases hd with rfl | rfl | hd | rfl | rfl | hd | hd
    · decide
    · decide
    · exact printable_quoteChars _ d hd
    · decide
    · decide
    · exact h m List.mem_cons_self d hd
    · exact ih (fun w hw => h w (List.mem_cons_of_mem _ hw)) d hd

/-- A written value has no line ends or other control characters. -/
theorem printable_chars {room : Nat} {v : Json} (h : Exact v room) : ∀ d ∈ chars v, 32 ≤ d.toNat := by
  induction h with
  | null => simp [chars]
  | bool b => cases b <;> simp [chars]
  | int h => exact printable_intChars _
  | str s => exact printable_quoteChars _
  | @arr _ vs h ih =>
    cases vs with
    | nil => simp [chars]
    | cons v vs =>
      intro d hd
      simp only [chars, List.mem_cons, List.mem_append] at hd
      rcases hd with rfl | hd | hd
      · decide
      · exact ih v List.mem_cons_self d hd
      · exact printable_itemChars (fun w hw => ih w (List.mem_cons_of_mem _ hw)) d hd
  | @obj _ ms names h ih =>
    cases ms with
    | nil => simp [chars]
    | cons m ms =>
      intro d hd
      simp only [chars, List.mem_cons, List.mem_append] at hd
      rcases hd with rfl | hd | rfl | rfl | hd | hd
      · decide
      · exact printable_quoteChars _ d hd
      · decide
      · decide
      · exact ih m List.mem_cons_self d hd
      · exact printable_memberChars (fun w hw => ih w (List.mem_cons_of_mem _ hw)) d hd

end Json

/-! ## Texts as files -/

namespace Text

theorem unifyBreaksChars_of_notMem {cs : List Char} (h : '\r' ∉ cs) : unifyBreaksChars cs = cs := by
  induction cs with
  | nil => rfl
  | cons c cs ih =>
    have hc : c ≠ '\r' := fun e => h (e ▸ List.mem_cons_self)
    have tail := ih fun hm => h (List.mem_cons_of_mem _ hm)
    rw [unifyBreaksChars, if_neg hc, tail]
    intro ds e
    exact absurd e hc

theorem unifyBreaks_render {room : Nat} {v : Json} (h : v.Exact room) : unifyBreaks v.render = v.render := by
  have : '\r' ∉ v.chars := fun hm => absurd (Json.printable_chars h _ hm) (by decide)
  rw [unifyBreaks, Json.render, String.toList_ofList, unifyBreaksChars_of_notMem this]

/-- The bytes of a text are read as that text. -/
theorem decode_toUTF8 (s : String) : decode s.toUTF8 = .ok s := by
  have hs : String.fromUTF8? s.toUTF8 = some s := by
    unfold String.fromUTF8?
    rw [dif_pos (show s.toUTF8.IsValidUTF8 from s.isValidUTF8)]
    rfl
  rw [decode, hs]

end Text

end DomainAtlas
